import ScriptBind.Declarations

/-!
# What a Module Exposes

The tables of a generated module. A class has a table of its attributes and the
module has one of its own; both map script names to what stands behind them.
These tables are what a script can reach, and they are all that the description
of the module is made from.

## Main definitions

* `Target`: What a script name stands for.
* `Row`: A name and its target.
* `ClassTable`: The attributes of a class.
* `WrappedFunction`: A function with a wrapper.
* `Exports`: All tables of a module.
* `firstOfEachName`: Rows without those whose name was taken before.

## Theorems

* `nodup_firstOfEachName`: No name is left twice.
-/

namespace ScriptBind

/-- What a script name stands for. -/
inductive Target where
  /-- A function of the library. -/
  | function (cName : String)
  /-- A number. -/
  | number (cName : String) (value : Int64)
  /-- A text. -/
  | text (cName text : String)
  /-- The class of an enum group. -/
  | enumClass (group : String)
  /-- The class of an object. -/
  | cls (name : String)
  /-- The type of a record. -/
  | struct (name : String)
  /-- A variable, shown as an instance of a record type. -/
  | global (name structName : String)
  deriving DecidableEq, Repr, Inhabited

/-- A script name and what it stands for. -/
structure Row where
  /-- The name. -/
  name : String
  /-- What it stands for. -/
  target : Target
  deriving DecidableEq, Repr, Inhabited

/-- The two kinds of class. -/
inductive ClassKind where
  /-- The class of an object. -/
  | object
  /-- The class of an enum group. -/
  | enumeration
  deriving DecidableEq, Repr, Inhabited

/-- The attributes of a class. -/
structure ClassTable where
  /-- The name of the class. -/
  name : String
  /-- The kind of class. -/
  kind : ClassKind
  /-- The function that creates its objects. -/
  constructor : Option String
  /-- The attributes in order. -/
  rows : List Row
  deriving DecidableEq, Repr, Inhabited

/-- A function with a wrapper, and its parameters as the wrapper names them. -/
structure WrappedFunction where
  /-- The name of the function. -/
  name : String
  /-- The parameters. -/
  params : List Parameter
  /-- The type returned. -/
  result : CType
  deriving Inhabited

/-- The name of the object that makes a wrapper callable. -/
def WrappedFunction.object (function : WrappedFunction) : String := s!"mp_{function.name}_obj"

/-- All tables of a module. -/
structure Exports where
  /-- The classes in order of writing. -/
  classes : List ClassTable := []
  /-- The attributes of the module. -/
  moduleRows : List Row := []
  /-- The functions that have a wrapper, by name. -/
  functions : Table WrappedFunction := .empty
  deriving Inhabited

/-- Rows without those whose name is among the given ones or was taken by a row
    before. -/
def firstOfEachNameFrom (taken : List String) : List Row → List Row
  | [] => []
  | row :: rest =>
    if taken.contains row.name then firstOfEachNameFrom taken rest
    else row :: firstOfEachNameFrom (row.name :: taken) rest

/-- Rows without those whose name was taken by a row before. -/
def firstOfEachName (rows : List Row) : List Row := firstOfEachNameFrom [] rows

theorem nodup_firstOfEachNameFrom (taken : List String) (rows : List Row) :
    ((firstOfEachNameFrom taken rows).map Row.name).Nodup ∧
      ∀ row ∈ firstOfEachNameFrom taken rows, row.name ∉ taken := by
  induction rows generalizing taken with
  | nil => exact ⟨List.nodup_nil, fun row h => absurd h (List.not_mem_nil)⟩
  | cons row rest ih =>
    rw [firstOfEachNameFrom]
    split
    · exact ih taken
    · next hn =>
      obtain ⟨hd, hm⟩ := ih (row.name :: taken)
      rw [List.contains_iff_mem] at hn
      refine ⟨?_, ?_⟩
      · -- The rest avoids all names taken, and so that of this row.
        rw [List.map_cons, List.nodup_cons]
        refine ⟨?_, hd⟩
        intro h
        obtain ⟨other, ho, he⟩ := List.mem_map.1 h
        exact hm other ho (he ▸ List.mem_cons_self)
      · intro other ho
        rcases List.mem_cons.1 ho with rfl | ho
        · exact hn
        · exact fun h => hm other ho (List.mem_cons_of_mem _ h)

/-- No name is left twice. -/
theorem nodup_firstOfEachName (rows : List Row) :
    ((firstOfEachName rows).map Row.name).Nodup :=
  (nodup_firstOfEachNameFrom [] rows).1

end ScriptBind

import ScriptBind.Binding.ArrayType
import ScriptBind.Binding.Struct
import ScriptBind.CType.Size

/-!
# Finding the Conversion of a Type

The conversion of a type is looked up by its spelling. A type that has none is
taken apart: a typedef is converted as what it stands for, a record by its
members, an array by its elements. What is found is remembered, with one
exception. A pointer to a record that is still being bound is passed untyped
for the moment, and nothing is remembered, since its own conversion is on the
way.

Resolving types and binding records lead to each other. Each function here does
one step and is given the others as they are one level further down; a bound on
the number of levels ties them together. The bound is computed from the sizes
of what the library declares and is far above what any type needs that is not
made of itself.

## Main definitions

* `resolveStep`: The conversion of a type from those of its parts.
* `resolveWithin`, `bindWithin`: Resolving and binding within a bound.
* `resolve`: The conversion of a type.
* `bindStruct`: Binding a record.
* `resolveArray`, `resolveOpenArray`: The conversions of array types.

## Theorems

* `get?_of_bindable?`, `spelling_of_bindable?`: The record that a type names is
  declared, under the spelling of the type.
-/

namespace ScriptBind

/-- Remember a conversion under a key, and answer it. -/
def remember (key : String) (conversion : Conversion) : BindM Conversion := do
  BindM.update fun _ session => session.addConversion key conversion
  return conversion

/-- The record that a type names itself, and its key. -/
def Declarations.bindable? (decls : Declarations) (type : CType) : Option (String × Record) :=
  match type with
  | .named name => (decls.records.get? name).map (name, ·)
  | .tagged kind tag =>
    let key := (CType.tagged kind tag).spelling
    (decls.records.get? key).map (key, ·)
  | _ => none

/-- The record that a type names is declared under its key. -/
theorem Declarations.get?_of_bindable? {decls : Declarations} {type : CType} {key : String}
    {record : Record} (h : decls.bindable? type = some (key, record)) :
    decls.records.get? key = some record := by
  unfold bindable? at h
  split at h
  · obtain ⟨found, hf, he⟩ := Option.map_eq_some_iff.1 h
    rw [← (Prod.mk.inj he).1, ← (Prod.mk.inj he).2]
    exact hf
  · obtain ⟨found, hf, he⟩ := Option.map_eq_some_iff.1 h
    rw [← (Prod.mk.inj he).1, ← (Prod.mk.inj he).2]
    exact hf
  · cases h

/-- The key of the record that a type names is the spelling of the type. -/
theorem Declarations.spelling_of_bindable? {decls : Declarations} {type : CType} {key : String}
    {record : Record} (h : decls.bindable? type = some (key, record)) : type.spelling = key := by
  cases type with
  | named name =>
      rcases Option.map_eq_some_iff.1 h with ⟨found, -, he⟩
      rw [← (Prod.mk.inj he).1, CType.spelling, CType.spell]
  | tagged kind tag =>
      rcases Option.map_eq_some_iff.1 h with ⟨found, -, he⟩
      rw [← (Prod.mk.inj he).1]
  | _ => cases h

/-- The conversion known under a key after a record has been bound. -/
def afterBinding (binders : Binders) (key : String) (record : Record) : BindM Conversion := do
  let _ ← binders.bind key record none
  match ← BindM.look fun _ session => session.registry.get? key with
  | some conversion => return conversion
  | none => BindM.fail (.missing key)

/-- The conversion of pointers to a record. -/
def resolveRecordPointer (binders : Binders) (key recordKey : String) (record : Record) :
    BindM Conversion := do
  if ← BindM.look fun _ session => session.inProgress.contains recordKey then
    return .untyped
  else
    -- A record that cannot be bound still leaves pointers to it usable, untyped.
    let isBound ← (binders.bind recordKey record none).succeeds
    let (known, isSettled) ← BindM.look fun _ session =>
      (session.registry.get? key, session.structs.contains recordKey)
    match isBound, known with
    | true, some conversion => return conversion
    | true, none => remember key .untyped
    | false, _ => if isSettled then remember key .untyped else return .untyped

/-- The conversion of pointers to anything else. Binding what a typedef stands
    for may bring that of its pointers along. -/
def resolveOtherPointer (binders : Binders) (links : Nat) (key : String) (pointee : CType) :
    BindM Conversion := do
  let isTypedef ← BindM.look fun library _ =>
    match pointee with
    | .named name => library.decls.typedefs.contains name
    | _ => false
  if isTypedef then
    let isResolved ← (binders.resolve (links + 1) pointee).succeeds
    match isResolved, ← BindM.look fun _ session => session.registry.get? key with
    | true, some conversion => return conversion
    | _, _ => remember key .untyped
  else remember key .untyped

/-- The conversion of pointers. -/
def resolvePointer (binders : Binders) (links : Nat) (pointee : CType) (isConst : Bool) :
    BindM Conversion := do
  let type := CType.pointer pointee isConst
  let key := type.spelling
  let library ← read
  if (library.decls.functionPointer type).isSome then remember key .callback
  else
    match library.decls.bindable? pointee with
    | some (recordKey, record) => resolveRecordPointer binders key recordKey record
    | none => resolveOtherPointer binders links key pointee

/-- The session with what is known of a type passed on to a typedef of it: the
    conversion of its pointers and the identifier of its record. -/
def Session.shareWithAlias (session : Session) (name underlying : String) : Session :=
  let pointers :=
    match session.registry.get? (underlying ++ " *") with
    | some conversion => session.addConversion (name ++ " *") conversion
    | none => session
  match pointers.boundStruct? underlying with
  | some bound => { pointers with aliases := pointers.aliases.add name bound.name }
  | none => pointers

/-- The conversion of a typedef. -/
def resolveTypedef (binders : Binders) (links : Nat) (name : String) (underlying : CType) :
    BindM Conversion := do
  if ← BindM.look fun library _ => library.decls.isEnum (.named name) then
    remember name .integer
  else
    let conversion ← binders.resolve (links + 1) underlying
    BindM.update fun _ session =>
      (session.addConversion name conversion).shareWithAlias name underlying.spelling
    return conversion

/-- The conversion of a named type. -/
def resolveNamed (binders : Binders) (links : Nat) (name : String) : BindM Conversion := do
  let decls ← BindM.look fun library _ => library.decls
  match decls.records.get? name, decls.typedefs.get? name with
  | some record, _ => afterBinding binders name record
  | none, some underlying => resolveTypedef binders links name underlying
  | none, none => BindM.fail (.missing name)

/-- The conversion of a record known by its tag. -/
def resolveTagged (binders : Binders) (key : String) : BindM Conversion := do
  match ← BindM.look fun library _ => library.decls.records.get? key with
  | some record => afterBinding binders key record
  | none => BindM.fail (.missing key)

/-- The conversion of a type that has none yet, met after so many links. -/
def resolveFresh (binders : Binders) (links : Nat) (type : CType) : BindM Conversion :=
  match type with
  | .pointer pointee isConst => resolvePointer binders links pointee isConst
  | .named name => resolveNamed binders links name
  | .tagged kind tag => resolveTagged binders (CType.tagged kind tag).spelling
  | .enumeration tag => remember (CType.enumeration tag).spelling .integer
  | .array element length => arrayConversion (binders.resolve 0) element length
  | type => BindM.fail (.missing type.spelling)

/-- The conversion of a type, met after so many links. -/
def resolveStep (binders : Binders) (links : Nat) (type : CType) : BindM Conversion := do
  match ← BindM.look fun _ session => session.registry.get? type.spelling with
  | some conversion => return conversion
  | none =>
    if links > aliasLimit then BindM.fail (.missing type.spelling)
    else resolveFresh binders links type

mutual

/-- The conversion of a type, found within a number of levels. -/
def resolveWithin : Nat → Nat → CType → BindM Conversion
  | 0, _, _ => .endless
  | levels + 1, links, type =>
    resolveStep ⟨resolveWithin levels, bindWithin levels⟩ links type

/-- Binding a record within a number of levels. -/
def bindWithin : Nat → String → Record → Option MemberTypedef → BindM BoundStruct
  | 0, _, _, _ => .endless
  | levels + 1, key, record, typedef =>
    bindStep levels ⟨resolveWithin levels, bindWithin levels⟩ key record typedef

end

/-- Resolving and binding within a number of levels. -/
def bindersWithin (levels : Nat) : Binders := ⟨resolveWithin levels, bindWithin levels⟩

/-- The number of constructors in what a library declares. -/
def Declarations.size (decls : Declarations) : Nat :=
  total (decls.records.values.map Record.size) + total (decls.typedefs.values.map CType.size)

/-- The number of constructors in what a session has put off or is binding. -/
def Session.pendingSize (session : Session) : Nat :=
  total (session.deferred.values.map (·.record.size)) + session.inProgress.length

/-- A number of levels within which everything comes to an end that is not made
    of itself: no record is bound inside itself, between two records there are
    at most as many links as there are constructors, and each record is put off
    at most once. -/
def levelsFor (size : Nat) : Nat :=
  let side := size + aliasLimit + 3
  side * side * side

/-- A computation with the ways to resolve and bind whatever something of the
    given size can lead to. -/
def withBinders {α : Type} (subject : String) (size : Nat) (f : Binders → BindM α) : BindM α :=
  BindM.settled subject do
    let reach ← BindM.look fun library session =>
      library.decls.size + session.pendingSize + size
    f (bindersWithin (levelsFor reach))

/-- The conversion of a type. -/
def resolve (type : CType) : BindM Conversion :=
  withBinders type.spelling type.size fun binders => binders.resolve 0 type

/-- Bind a record under a key. -/
def bindStruct (key : String) (record : Record) : BindM BoundStruct :=
  withBinders key record.size fun binders => binders.bind key record none

/-- The conversion of arrays of a fixed length. -/
def resolveArray (element : CType) (length : Nat) : BindM Conversion :=
  withBinders (CType.array element length).spelling element.size fun binders =>
    arrayConversion (binders.resolve 0) element length

/-- The conversion of arrays of unknown length. -/
def resolveOpenArray (element : CType) : BindM Conversion :=
  withBinders (openArrayKey element) element.size fun binders =>
    openArrayConversion (binders.resolve 0) element

end ScriptBind

import ScriptBind.Declarations
import ScriptBind.Naming

/-!
# Constructors

A class is not declared in C. It shows in a function that creates its objects:
one named after the object, which takes a parent and an object to copy and
returns the new object, all three by the base type.

The name alone makes a candidate. The shape decides, and each part of it that
fits is a piece of evidence; the first that does not fit is the reason for
turning the candidate down.

## Main definitions

* `Candidate`: A function named like a constructor.
* `Evidence`: What speaks for a candidate.
* `Rejection`: What speaks against one.
* `candidates`: The candidates among the functions of a library.
* `Candidate.check`: The evidence for a candidate, and the reason against it.

## Theorems

* `check_evidence`: A candidate without a reason against it has all the
  evidence there is.
-/

namespace ScriptBind

/-- What speaks for a function being a constructor. -/
inductive Evidence where
  /-- It is named like one. -/
  | namePattern
  /-- It returns the base type. -/
  | returnsBase
  /-- Its first parameter has the base type. -/
  | parentParam
  /-- Its second parameter has the base type. -/
  | copyParam
  deriving DecidableEq, Repr, Inhabited

/-- Why a function is no constructor. -/
inductive Rejection where
  /-- It returns something else. -/
  | result (type base : String)
  /-- It takes too few parameters. -/
  | parameterCount (count : Nat)
  /-- A parameter has another type. -/
  | parameter (name type base : String)
  deriving DecidableEq, Repr, Inhabited

/-- The reason as text. -/
def Rejection.message : Rejection → String
  | .result type base => s!"returns `{type}`, not `{base}`"
  | .parameterCount count => s!"takes {count} parameters, expected parent and copy"
  | .parameter name type base => s!"parameter `{name}` is `{type}`, not `{base}`"

/-- A function named like a constructor, and the object it would create. -/
structure Candidate where
  /-- The object. -/
  object : String
  /-- The function. -/
  function : CFunction
  deriving Repr, Inhabited

/-- The functions of a library named like constructors, in order of
    declaration, without those of excluded objects. -/
def candidates (decls : Declarations) (naming : Naming) (exclude : List String) :
    List Candidate :=
  decls.functions.filterMap fun function =>
    match naming.constructorObject? function.name with
    | some object => if exclude.contains object then none else some ⟨object, function⟩
    | none => none

namespace Candidate

/-- The evidence of parameters that should have the base type, up to the first
    that does not. -/
def checkParams (naming : Naming) :
    List (Parameter × Evidence) → List Evidence × Option Rejection
  | [] => ([], none)
  | (param, evidence) :: rest =>
    if naming.isBaseType param.type.spelling then
      let (more, rejection) := checkParams naming rest
      (evidence :: more, rejection)
    else ([], some (.parameter param.name param.type.qualified naming.baseType))

/-- The evidence for a candidate, and the reason against it if there is one. -/
def check (naming : Naming) (candidate : Candidate) : List Evidence × Option Rejection :=
  let function := candidate.function
  if naming.isBaseType function.result.spelling then
    let params := function.effectiveParams
    if params.length < 2 then
      ([.namePattern, .returnsBase], some (.parameterCount params.length))
    else
      let (more, rejection) := checkParams naming (params.zip [.parentParam, .copyParam])
      (.namePattern :: .returnsBase :: more, rejection)
  else ([.namePattern], some (.result function.result.qualified naming.baseType))

/-- Whether nothing speaks against a candidate. -/
def isConstructor (naming : Naming) (candidate : Candidate) : Bool :=
  (candidate.check naming).2.isNone

theorem checkParams_evidence {naming : Naming} {params : List (Parameter × Evidence)}
    (h : (checkParams naming params).2 = none) :
    (checkParams naming params).1 = params.map Prod.snd := by
  fun_induction checkParams naming params with
  | case1 => rfl
  | case2 param evidence rest hb more rejection hr ih =>
    rw [hr] at ih
    rw [List.map_cons, ← ih h]
  | case3 => exact absurd h (by simp)

/-- A candidate without a reason against it has all the evidence there is. -/
theorem check_evidence {naming : Naming} {candidate : Candidate}
    (h : candidate.isConstructor naming) :
    (candidate.check naming).1 = [.namePattern, .returnsBase, .parentParam, .copyParam] := by
  rw [isConstructor, Option.isNone_iff_eq_none] at h
  unfold check at h ⊢
  simp only at h ⊢
  split at h
  · next hb =>
    rw [if_pos hb]
    split at h
    · exact absurd h (by simp)
    · next hl =>
      rw [if_neg hl]
      have he := checkParams_evidence h
      -- There are two parameters to compare, since fewer would have been a reason.
      simp only [he]
      match hp : candidate.function.effectiveParams, hl with
      | a :: b :: rest, _ => simp
      | [_], hl => simp at hl
      | [], hl => simp at hl
  · exact absurd h (by simp)

end Candidate

end ScriptBind

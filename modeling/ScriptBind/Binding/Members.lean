import ScriptBind.Binding.Marshal

/-!
# Binding the Members of a Record

A record is bound member by member. A member without a conversion means that
the record has none either, with one exception: a callback that cannot be
marshaled is left out, and the rest of the record is as good without it.

A nameless record that is the type of a member gets a name made from those of
the record and the member, and is bound under that name.

## Main definitions

* `Binders`: The ways to resolve a type and to bind a record.
* `MemberOutcome`: What becomes of a member.
* `bindMember`: The way to a member.
* `bindMembers`: The ways to all members of a record.
-/

namespace ScriptBind

/-- The ways to resolve a type and to bind a record, for computations that need
    them of the parts of what they are working on. -/
structure Binders where
  /-- The conversion of a type, met after so many links of typedefs. -/
  resolve : Nat → CType → BindM Conversion
  /-- Binding a record under a key, with a typedef to be written before it. -/
  bind : String → Record → Option MemberTypedef → BindM BoundStruct

/-- What becomes of a member. -/
inductive MemberOutcome where
  /-- A script can reach it. -/
  | reached (access : Access)
  /-- It is a callback and is left out. -/
  | dropped (field : String) (reason : Diagnostic)
  deriving Inhabited

namespace MemberOutcome

/-- The way to the member. -/
def access? : MemberOutcome → Option Access
  | .reached access => some access
  | .dropped _ _ => none

/-- The name of a member left out, and why. -/
def dropped? : MemberOutcome → Option (String × Diagnostic)
  | .reached _ => none
  | .dropped field reason => some (field, reason)

end MemberOutcome

/-- The way to a value by its conversion. -/
def Access.ofConversion (field : Field) (typeName : String) (conversion : Conversion) :
    Except BindError Access :=
  match conversion.inward? with
  | some store =>
    let load := conversion.byReference.getD conversion.outward
    .ok (.value field.name typeName field.type.isPointer store load)
  | none => .error (.notInPlace typeName)

/-- The way to an array by its conversion. -/
def Access.ofArray (field : Field) (element : CType) (length : Nat) (conversion : Conversion) :
    Except BindError Access :=
  let typeName := field.type.spelling
  match conversion.inward? with
  | some store =>
    .ok (.array field.name typeName element.qualified length store conversion.outward)
  | none => .error (.notInPlace typeName)

/-- The name of a nameless record, from the record and the member it belongs
    to. -/
def memberTypeName (owner field : String) : String :=
  let stem := (Text.dropSuffix? "_t" owner).getD owner
  s!"{stem}_{field}_t"

/-- A callback that is a member of a record. -/
def marshalMember (binders : Binders) (signature : Signature) (typeName owner field key : String)
    (record : Record) : BindM Callback :=
  marshal (binders.resolve 0) signature typeName owner field (some (key, record))

/-- The way to a callback, or why it is left out. -/
def bindCallback (binders : Binders) (owner key : String) (record : Record) (field : Field)
    (signature : Signature) : BindM MemberOutcome := do
  let typeName := field.type.spelling
  match ← (marshalMember binders signature typeName owner field.name key record).attempt with
  | .ok callback =>
    let slot ← BindM.look fun library _ => callback.slot library.naming.userData "data"
    return .reached (.callback field.name typeName callback slot)
  | .error error =>
    return .dropped field.name
      { kind := .callback
        name := s!"{owner}.{field.name}"
        reason := error.message
        declaration := field.type.declare field.name }

/-- The way to a member whose type is a nameless record. -/
def bindNameless (binders : Binders) (owner key place : String) (field : Field) (inner : Record) :
    BindM Access := do
  let name := memberTypeName owner field.name
  let nested := { inner with name }
  let _ ← (binders.bind name nested (some ⟨key, field.name, name⟩)).within place
  match ← BindM.look fun _ session => session.registry.get? name with
  | some conversion => BindM.ofExcept (Access.ofConversion field name conversion)
  | none => BindM.fail ((BindError.missing name).within place)

/-- The way to a member, or why it is left out. A nameless member without
    members, and an array without length, is passed over. -/
def bindMember (binders : Binders) (owner key : String) (record : Record) (field : Field) :
    BindM (Option MemberOutcome) := do
  let place := s!"struct `{owner}.{field.name}`"
  if field.name = "" then return none
  else
    match ← BindM.look fun library _ => library.decls.functionPointer field.type with
    | some signature => return some (← bindCallback binders owner key record field signature)
    | none =>
      match field.type with
      | .anonymous inner =>
        return some (.reached (← bindNameless binders owner key place field inner))
      | .array element length =>
        if length = 0 then return none
        else
          let conversion ← (binders.resolve 0 field.type).within place
          return some (.reached (← BindM.ofExcept (Access.ofArray field element length conversion)))
      | type =>
        let conversion ← (binders.resolve 0 type).within place
        return some (.reached (← BindM.ofExcept
          (Access.ofConversion field type.spelling conversion)))

/-- What becomes of the members of a record, in order. -/
def bindMembers (binders : Binders) (owner key : String) (record : Record) :
    List Field → BindM (List MemberOutcome)
  | [] => pure []
  | field :: rest => do
    let outcome ← bindMember binders owner key record field
    let outcomes ← bindMembers binders owner key record rest
    return outcome.toList ++ outcomes

end ScriptBind

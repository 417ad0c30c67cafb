import ScriptBind.Binding.Computation

/-!
# Binding Array Types

An array is converted element by element, so it can be converted if its
elements can. Arrays of arrays and of callbacks are left alone: C has no array
values, and a callback cannot be registered without the place it stands in.

The converters of an array type are written when the type is first met.

## Main definitions

* `arrayConversion`: The conversion of arrays of a fixed length.
* `openArrayConversion`: The conversion of arrays of unknown length.
-/

namespace ScriptBind

/-- Whether a type can be the element of an array that is converted. -/
def Declarations.isElement (decls : Declarations) (type : CType) : Bool :=
  match type with
  | .array _ _ => false
  | type => (decls.functionPointer type).isNone

/-- The conversion of the elements of an array type. -/
def elementConversion (resolve : CType → BindM Conversion) (element : CType) (key : String) :
    BindM Conversion := do
  if ← BindM.look fun library _ => library.decls.isElement element then
    (resolve element).within s!"array `{key}`"
  else BindM.fail (.missing key)

/-- Write the converters of an array type and remember them under its key. -/
def writeArray (key : String) (converter : ArrayConverter) : BindM Conversion := do
  let conversion := Conversion.between converter.toArray converter.fromArray
  BindM.update fun _ session =>
    (session.emit (.arrayConverter converter)).addConversion key conversion
  return conversion

/-- The converters of arrays whose elements have a conversion. -/
def ArrayConverter.ofElement (element : CType) (length : Option Nat) (conversion : Conversion) :
    ArrayConverter where
  element
  length
  store := conversion.inward?.getD "mp_to_ptr"
  load := conversion.outward

/-- The conversion of arrays of a fixed length. -/
def arrayConversion (resolve : CType → BindM Conversion) (element : CType) (length : Nat) :
    BindM Conversion := do
  let key := (CType.array element length).spelling
  match ← BindM.look fun _ session => session.registry.get? key with
  | some conversion => return conversion
  | none =>
    if length = 0 then BindM.fail (.missing key)
    else
      let conversion ← elementConversion resolve element key
      writeArray key (.ofElement element (some length) conversion)

/-- The key of arrays of unknown length. -/
def openArrayKey (element : CType) : String := element.spelling ++ " []"

/-- The conversion of arrays of unknown length, which C passes by the pointer to
    their first element. -/
def openArrayConversion (resolve : CType → BindM Conversion) (element : CType) :
    BindM Conversion := do
  let key := openArrayKey element
  match ← BindM.look fun _ session => session.registry.get? key with
  | some conversion => return conversion
  | none =>
    if element.isVoid then BindM.fail (.missing key)
    else
      let conversion ← elementConversion resolve element key
      writeArray key (.ofElement element none conversion)

end ScriptBind

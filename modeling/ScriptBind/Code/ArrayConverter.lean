import ScriptBind.CType.Spelling
import ScriptBind.Text.Layout

/-!
# Array Converters

The code that turns a script's list into a C array and a C array into a list,
one element at a time.

The length of an array may be part of its type. If it is not, an array is as
long as the list it is made from, and on the way back only the pointer is left.

## Main definitions

* `ArrayConverter`: The code for arrays of a type.
* `ArrayConverter.toArray`, `ArrayConverter.fromArray`: The names of the two
  functions it defines.
* `ArrayConverter.lines`: The code as text.
-/

namespace ScriptBind

open Text

/-- The code for arrays of a type. -/
structure ArrayConverter where
  /-- The type of the elements. -/
  element : CType
  /-- The number of elements, if the type fixes it. -/
  length : Option Nat
  /-- The converter of an element to C. -/
  store : String
  /-- The converter of an element to the script. -/
  load : String
  deriving Inhabited

namespace ArrayConverter

/-- The type that the code is for, as text. -/
def typeName (converter : ArrayConverter) : String :=
  match converter.length with
  | some length => (CType.array converter.element length).spelling
  | none => (CType.pointerTo converter.element).spelling

/-- A character of a type as it stands in an identifier. -/
def identifierPart (isFixed : Bool) (c : Char) : String :=
  if c = ' ' then "_"
  else if c = '*' then "ptr"
  else if isFixed && (c = '[' || c = ']') then "__"
  else c.toString

/-- The type as part of an identifier. -/
def typeIdentifier (converter : ArrayConverter) : String :=
  String.join (converter.typeName.toList.map (identifierPart converter.length.isSome))

/-- The function that makes an array from a list. -/
def toArray (converter : ArrayConverter) : String := "mp_arr_to_" ++ converter.typeIdentifier

/-- The function that makes a list from an array. -/
def fromArray (converter : ArrayConverter) : String := "mp_arr_from_" ++ converter.typeIdentifier

/-- The body of the function that makes an array from a list. -/
def toArrayBody (converter : ArrayConverter) : List String :=
  let type := converter.element.spelling
  let count := match converter.length with
    | some length => toString length
    | none => "len"
  ["mp_obj_t mp_len = mp_obj_len_maybe(mp_arr);",
      "if (mp_len == MP_OBJ_NULL) return mp_to_ptr(mp_arr);",
      "mp_int_t len = mp_obj_get_int(mp_len);"]
    ++ (if converter.length.isSome then
      let complaint := s!"\"Too many elements for {converter.typeName}\""
      [s!"if (len > {count}) nlr_raise("
        ++ s!"mp_obj_new_exception_msg(&mp_type_ValueError, {complaint}));"]
    else [])
    ++ [s!"{type} *lv_arr = ({type}*)m_malloc({count} * sizeof({type}));"]
    ++ (if converter.length.isSome then [s!"memset(lv_arr, 0, {count} * sizeof({type}));"] else [])
    ++ ["mp_obj_t iter = mp_getiter(mp_arr, NULL);",
      "mp_obj_t item;",
      "size_t i = 0;"]
    ++ enclosed "while ((item = mp_iternext(iter)) != MP_OBJ_STOP_ITERATION) \x7b"
      [s!"lv_arr[i++] = {converter.store}(item);"] "\x7d"
    ++ [s!"return ({converter.element.qualified} *)lv_arr;"]

/-- The body of the function that makes a list from an array. -/
def fromArrayBody (converter : ArrayConverter) : List String :=
  match converter.length with
  | some length =>
    let cast := if converter.element.isPointer then "(void*)" else ""
    [s!"mp_obj_t obj_arr[{length}];"]
      ++ enclosed (s!"for (size_t i = 0; i < {length}; i++) " ++ "\x7b")
        [s!"obj_arr[i] = {converter.load}({cast}arr[i]);"] "\x7d"
      ++ [s!"return mp_obj_new_list({length}, obj_arr);"]
  | none => ["return ptr_to_mp((void*)arr);"]

/-- The code as text. -/
def lines (converter : ArrayConverter) : List String :=
  let type := converter.element.qualified
  "" :: comment [s!"Array convertors for {converter.typeName}"] ++ [""]
    ++ headed s!"STATIC {type} *{converter.toArray}(mp_obj_t mp_arr)" converter.toArrayBody
    ++ [""]
    ++ headed s!"STATIC mp_obj_t {converter.fromArray}({type} *arr)" converter.fromArrayBody

end ArrayConverter

end ScriptBind

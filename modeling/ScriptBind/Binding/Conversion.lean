import ScriptBind.Naming
import ScriptBind.Table

/-!
# Conversions

How values move between the script and C. A conversion is a pair of converters
for one C type, nearly always the names of two functions that are applied to
the value. Callbacks are the exception: on its way to C a callable has to be
registered, and what that takes depends on where it stands.

Conversions are found by the spelling of their type. The registry only grows
and a key once taken keeps its conversion, so what a type was first converted
by is what it is always converted by.

## Main definitions

* `Conversion`: How the values of a type move both ways.
* `Registry`: Conversions by the spelling of their type.
* `Registry.seeded`: The conversions that need nothing to be generated.
-/

namespace ScriptBind

/-- How a value gets from the script to C. -/
inductive Inward where
  /-- By applying a function or a cast of this name. -/
  | apply (converter : String)
  /-- By registering it as a callback. -/
  | register
  deriving DecidableEq, Repr, Inhabited

/-- How the values of a type move between the script and C. -/
structure Conversion where
  /-- From the script to C. -/
  inward : Inward
  /-- The function that leads from C to the script. -/
  outward : String
  /-- The function that shows a member in its place instead of copying it. -/
  byReference : Option String := none
  deriving DecidableEq, Repr, Inhabited

namespace Conversion

/-- A conversion by two functions. -/
def between (inward outward : String) : Conversion := ⟨.apply inward, outward, none⟩

/-- Pointers that a script can pass on but not look into. -/
def untyped : Conversion := between "mp_to_ptr" "ptr_to_mp"

/-- Enums. -/
def integer : Conversion := between "(int)mp_obj_get_int" "mp_obj_new_int"

/-- Function pointers. -/
def callback : Conversion := ⟨.register, "ptr_to_mp", none⟩

/-- The function that leads to C, if it is one. -/
def inward? (conversion : Conversion) : Option String :=
  match conversion.inward with
  | .apply converter => some converter
  | .register => none

end Conversion

/-- Conversions by the spelling of their type. -/
abbrev Registry := Table Conversion

namespace Registry

/-- The unsigned integers. -/
def unsignedTypes : List String :=
  ["uint8_t", "uint16_t", "uint32_t", "unsigned int", "unsigned char", "unsigned short",
    "unsigned long", "size_t", "uintptr_t"]

/-- The signed integers. -/
def signedTypes : List String :=
  ["int8_t", "int16_t", "int32_t", "int", "char", "signed char", "short", "long", "intptr_t",
    "ptrdiff_t"]

/-- A conversion whose way to C casts to the type itself. -/
def casting (read outward type : String) : String × Conversion :=
  (type, .between s!"({type}){read}" outward)

/-- The conversions that need nothing to be generated. -/
def seeds (naming : Naming) : List (String × Conversion) :=
  [("void *", .untyped),
    ("uint8_t *", .untyped),
    ("bool", .between "mp_obj_is_true" "convert_to_bool"),
    ("_Bool", .between "mp_obj_is_true" "convert_to_bool"),
    ("char *", .between "(char*)mp_obj_str_get_str" "convert_to_str"),
    ("unsigned char *", .between "(unsigned char*)mp_obj_str_get_str" "convert_to_str"),
    (naming.baseType ++ " *", .between "mp_to_lv" "lv_to_mp")]
    ++ unsignedTypes.map (casting "mp_obj_get_int" "mp_obj_new_int_from_uint")
    ++ signedTypes.map (casting "mp_obj_get_int" "mp_obj_new_int")
    ++ ["float", "double"].map (casting "mp_obj_get_float" "mp_obj_new_float")

/-- A registry of the conversions that need nothing to be generated. -/
def seeded (naming : Naming) : Registry := Table.ofFirstRows (seeds naming)

end Registry

end ScriptBind

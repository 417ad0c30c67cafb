import ScriptBind.Code.Converted
import ScriptBind.Text.Layout

/-!
# The Accessor of a Record

The code that lets a script hold a C record, read and write its members, and
pass it on by value and by pointer.

Each member that a script can reach has one case where it is loaded and one
where it is stored, in the order of the members.

## Main definitions

* `MemberTypedef`: The name given to the type of a nameless record.
* `Access`: The way to one member.
* `Accessor`: The code for a record.
* `Accessor.converters`: The conversions the code defines.
* `Accessor.lines`: The code as text.
-/

namespace ScriptBind

open Text

/-- A name for the type of a nameless record, taken from the member it is the
    type of. -/
structure MemberTypedef where
  /-- The record the member belongs to. -/
  owner : String
  /-- The member. -/
  field : String
  /-- The name. -/
  name : String
  deriving DecidableEq, Repr, Inhabited

/-- The typedef as text. -/
def MemberTypedef.lines (typedef : MemberTypedef) : List String :=
  ["", s!"typedef typeof( (({typedef.owner}*)(0))->{typedef.field} ) {typedef.name};"]

/-- The way to one member of a record. -/
inductive Access where
  /-- A value, by its two converters. -/
  | value (field typeName : String) (isPointer : Bool) (store load : String)
  /-- An array, copied as a whole. -/
  | array (field typeName element : String) (length : Nat) (store load : String)
  /-- A callback, registered when it is stored. -/
  | callback (field typeName : String) (callback : Callback) (slot : Slot)
  deriving Inhabited

namespace Access

/-- The member. -/
def field : Access → String
  | .value field _ _ _ _ => field
  | .array field _ _ _ _ _ => field
  | .callback field _ _ _ => field

/-- The callback a member holds. -/
def callback? : Access → Option Callback
  | .callback _ _ marshaled _ => some marshaled
  | _ => none

/-- What stands before and after the statement of a case. -/
def case (field statement remark : String) : String :=
  s!"case MP_QSTR_{field}: {statement} break; // converting {remark}"

/-- The case that loads the member. -/
def load : Access → String
  | .value field typeName isPointer _ load =>
    let cast := if isPointer then "(void*)" else ""
    case field s!"dest[0] = {load}({cast}data->{field});" s!"from {typeName}"
  | .array field typeName _ _ _ load =>
    case field s!"dest[0] = {load}(data->{field});" s!"from {typeName}"
  | .callback field typeName _ _ =>
    case field s!"dest[0] = ptr_to_mp((void*)data->{field});" s!"from callback {typeName}"

/-- The case that stores the member. -/
def store : Access → String
  | .value field typeName isPointer store _ =>
    let cast := if isPointer then "(void*)" else ""
    case field s!"data->{field} = {cast}{store}(dest[1]);" s!"to {typeName}"
  | .array field typeName element length store _ =>
    case field s!"memcpy(&data->{field}, {store}(dest[1]), sizeof({element})*{length});"
      s!"to {typeName}"
  | .callback field typeName marshaled slot =>
    let registered := s!"{marshaled.trampoline}, MP_QSTR_{marshaled.name}, {slot.address}"
    case field s!"data->{field} = (void*)mp_lv_callback(dest[1], {registered});"
      s!"to callback {typeName}"

end Access

/-- The code for a record. -/
structure Accessor where
  /-- The identifier that the code's names are made from. -/
  name : String
  /-- The record's spelling. -/
  type : String
  /-- The ways to its members. -/
  accesses : List Access
  deriving Inhabited

namespace Accessor

/-- The callbacks among the members. -/
def callbacks (accessor : Accessor) : List Callback :=
  accessor.accesses.filterMap Access.callback?

/-- The declarations of the trampolines that the code mentions. -/
def forward (accessor : Accessor) : List String :=
  match accessor.callbacks.map Callback.forwardDeclaration with
  | [] => []
  | declarations => declarations ++ [""]

/-- The converters between the record and the script. -/
def converters (accessor : Accessor) : List String :=
  let name := accessor.name
  let type := accessor.type
  [s!"STATIC inline const mp_obj_type_t *get_mp_{name}_type();", ""]
    ++ headed s!"STATIC inline {type}* mp_write_ptr_{name}(mp_obj_t self_in)"
      [s!"mp_lv_struct_t *self = MP_OBJ_TO_PTR(cast(self_in, get_mp_{name}_type()));",
        s!"return ({type}*)self->data;"]
    ++ ["", s!"#define mp_write_{name}(struct_obj) *mp_write_ptr_{name}(struct_obj)", ""]
    ++ headed s!"STATIC inline mp_obj_t mp_read_ptr_{name}({type} *field)"
      [s!"return lv_to_mp_struct(get_mp_{name}_type(), (void*)field);"]
    ++ ["",
      s!"#define mp_read_{name}(field) mp_read_ptr_{name}(copy_buffer(&field, sizeof({type})))",
      s!"#define mp_read_byref_{name}(field) mp_read_ptr_{name}(&field)"]

/-- The statement that loads a member. -/
def loading (accessor : Accessor) : List String :=
  "// load attribute" :: headed "switch(attr)"
    (accessor.accesses.map Access.load
      ++ enclosed "case MP_QSTR___dereference__: \x7b"
        ["dest[0] = (void*)&mp_lv_dereference_obj;", "dest[1] = self_in;"] "\x7d"
      ++ ["break;"])

/-- The statement that stores a member. -/
def storing (accessor : Accessor) : List String :=
  headed "if (dest[1])" <|
    "// store attribute" :: headed "switch(attr)"
      (accessor.accesses.map Access.store ++ ["default: return;"])
      ++ ["", "dest[0] = MP_OBJ_NULL; // indicate success"]

/-- The function that loads and stores members. -/
def attributes (accessor : Accessor) : List String :=
  headed s!"STATIC void mp_{accessor.name}_attr(mp_obj_t self_in, qstr attr, mp_obj_t *dest)" <|
    ["mp_lv_struct_t *self = MP_OBJ_TO_PTR(self_in);",
      s!"{accessor.type} *data = ({accessor.type}*)self->data;",
      "",
      "if (dest[0] == MP_OBJ_NULL) \x7b"]
    ++ accessor.loading.map indented
    ++ enclosed "\x7d else \x7b" accessor.storing "\x7d"

/-- The script's type for the record. -/
def typeObject (accessor : Accessor) : List String :=
  let name := accessor.name
  [s!"STATIC void mp_{name}_print(const mp_print_t *print,",
      "    mp_obj_t self_in,",
      "    mp_print_kind_t kind)"]
    ++ braced [s!"mp_printf(print, \"struct {name}\");"]
    ++ [""]
    ++ enclosed s!"STATIC const mp_rom_map_elem_t mp_{name}_locals_dict_table[] = \x7b"
      [row ["MP_ROM_QSTR(MP_QSTR_SIZE)",
        s!"MP_ROM_PTR(MP_ROM_INT(sizeof({accessor.type})))"] ++ ",",
        row ["MP_ROM_QSTR(MP_QSTR_cast)", "MP_ROM_PTR(&mp_lv_cast_class_method)"] ++ ","]
      "\x7d;"
    ++ ["",
      s!"STATIC MP_DEFINE_CONST_DICT(mp_{name}_locals_dict, mp_{name}_locals_dict_table);", ""]
    ++ enclosed s!"STATIC const mp_obj_type_t mp_{name}_type = \x7b"
      ["\x7b &mp_type_type \x7d,",
        s!".name = MP_QSTR_{name},",
        s!".print = mp_{name}_print,",
        ".make_new = make_new_lv_struct,",
        s!".attr = mp_{name}_attr,",
        s!".locals_dict = (mp_obj_dict_t*)&mp_{name}_locals_dict,",
        ".buffer_p = \x7b .get_buffer = mp_blob_get_buffer \x7d"]
      "\x7d;"
    ++ [""]
    ++ headed s!"STATIC inline const mp_obj_type_t *get_mp_{name}_type()"
      [s!"return &mp_{name}_type;"]

/-- The code for a record as text. -/
def lines (accessor : Accessor) : List String :=
  "" :: comment [s!"Struct {accessor.name}"] ++ [""]
    ++ accessor.forward
    ++ accessor.converters ++ [""]
    ++ accessor.attributes ++ [""]
    ++ accessor.typeObject

end Accessor

end ScriptBind

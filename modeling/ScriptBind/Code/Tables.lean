import ScriptBind.Exports.Basic
import ScriptBind.Text.Layout

/-!
# Tables in Code

The attributes of classes, of the module and of variables, as the script's
engine reads them: constant tables of names and addresses.

## Main definitions

* `Row.text`: A row of a table.
* `ClassTable.lines`: A class with its attributes.
* `moduleLines`: The module with its attributes.
* `baseTypeLines`: The way to the type of the base object.
* `Instance.lines`: A variable shown as an instance of a record type.
-/

namespace ScriptBind

open Text

/-- What a script name stands for, as the entry of a table. -/
def Target.entry : Target → String
  | .function cName => s!"MP_ROM_PTR(&mp_{cName}_obj)"
  | .number cName _ => s!"MP_ROM_PTR(MP_ROM_INT({cName}))"
  | .text cName _ => s!"MP_ROM_PTR(&mp_{cName})"
  | .enumClass name => s!"MP_ROM_PTR(&mp_{name}_type)"
  | .cls name => s!"MP_ROM_PTR(&mp_{name}_type)"
  | .struct name => s!"MP_ROM_PTR(&mp_{name}_type)"
  | .global name _ => s!"MP_ROM_PTR(&mp_{name})"

/-- A row of a table as text. -/
def Row.text (entry : Row) : String :=
  row [s!"MP_ROM_QSTR(MP_QSTR_{entry.name})", entry.target.entry]

/-- The rows of a class, a comma between two of them. -/
def rowsWithCommas : List Row → List String
  | [] => ["    "]
  | [last] => [indented last.text]
  | entry :: rest => (indented entry.text ++ ",") :: rowsWithCommas rest

namespace ClassTable

/-- The function through which a script creates an object, if there is one. -/
def makeNew (table : ClassTable) : List String :=
  match table.constructor with
  | none => []
  | some function =>
    ["", s!"STATIC mp_obj_t {table.name}_make_new(",
      "    const mp_obj_type_t *type,",
      "    size_t n_args,",
      "    size_t n_kw,",
      "    const mp_obj_t *args)"]
      ++ braced [s!"return make_new(&{function}, type, n_args, n_kw, args);"]

/-- A line that only classes with a constructor have. -/
def ifCreated (table : ClassTable) (line : String) : List String :=
  if table.constructor.isSome then [line] else []

/-- A class with its attributes, as text. -/
def lines (moduleName : String) (table : ClassTable) : List String :=
  let name := table.name
  "" :: comment [s!"{moduleName} {name} object definitions"]
    ++ ["", s!"STATIC const mp_rom_map_elem_t {name}_locals_dict_table[] = \x7b"]
    ++ rowsWithCommas table.rows
    ++ ["\x7d;", "",
      s!"STATIC MP_DEFINE_CONST_DICT({name}_locals_dict, {name}_locals_dict_table);", "",
      s!"STATIC void {name}_print(const mp_print_t *print,",
      "    mp_obj_t self_in,",
      "    mp_print_kind_t kind)"]
    ++ braced [s!"mp_printf(print, \"{moduleName} {name}\");"]
    ++ table.makeNew ++ [""]
    ++ enclosed s!"STATIC const mp_obj_type_t mp_{name}_type = \x7b"
      (["\x7b &mp_type_type \x7d,", s!".name = MP_QSTR_{name},", s!".print = {name}_print,"]
        ++ table.ifCreated s!".make_new = {name}_make_new,"
        ++ [s!".locals_dict = (mp_obj_dict_t*)&{name}_locals_dict,"]
        ++ table.ifCreated ".buffer_p = \x7b .get_buffer = mp_obj_get_buffer \x7d,"
        ++ [".parent = NULL,"])
      "\x7d;"

end ClassTable

/-- The way to the type of the base object, as text. -/
def baseTypeLines (base : String) : List String :=
  ["", s!"STATIC const mp_obj_type_t mp_{base}_type;", ""]
    ++ headed "STATIC inline const mp_obj_type_t *get_BaseObj_type()" [s!"return &mp_{base}_type;"]

/-- A variable shown as an instance of a record type. -/
structure Instance where
  /-- The variable. -/
  global : Global
  /-- The identifier of the record type. -/
  structName : String
  deriving Inhabited

/-- A variable shown as an instance, as text. -/
def Instance.lines (moduleName : String) (shown : Instance) : List String :=
  let name := shown.global.name
  "" :: comment [s!"{moduleName} {name} global definitions"] ++ [""]
    ++ enclosed s!"STATIC const mp_lv_struct_t mp_{name} = \x7b"
      [row [s!"&mp_{shown.structName}_type"] ++ ",", s!"({shown.global.type.qualified}*)&{name}"]
      "\x7d;"

/-- The module with its attributes, as text. -/
def moduleLines (name : String) (rows : List Row) : List String :=
  ["", ""] ++ comment [s!"{name} module definitions"] ++ [""]
    ++ enclosed s!"STATIC const mp_rom_map_elem_t {name}_globals_table[] = \x7b"
      ((row ["MP_ROM_QSTR(MP_QSTR___name__)", s!"MP_ROM_QSTR(MP_QSTR_{name})"] ++ ",")
        :: rows.map (·.text ++ ","))
      "\x7d;"
    ++ ["", "STATIC MP_DEFINE_CONST_DICT (",
      s!"    mp_module_{name}_globals,",
      s!"    {name}_globals_table",
      ");", ""]
    ++ enclosed s!"const mp_obj_module_t mp_module_{name} = \x7b"
      [".base = \x7b &mp_type_module \x7d,",
        s!".globals = (mp_obj_dict_t*)&mp_module_{name}_globals"]
      "\x7d;"

end ScriptBind

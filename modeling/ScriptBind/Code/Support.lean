import ScriptBind.Text.Layout

/-!
# The Code Every Module Starts With

The fixed part of a generated module: what the converters, accessors and
trampolines of any library call. It does not depend on the library but for the
name of the record member that leads from C back to the script.

The part for objects is there for the compiler only in modules that have
classes, which is why the base type is defined before it and not after.

## Main definitions

* `Support.lines`: The whole fixed part.
-/

namespace ScriptBind

namespace Support

/-- Functions of the library as objects of the script. -/
def functionObjects : List String :=
  [
    "",
    "/*",
    " * Helper functions",
    " */",
    "",
    "// Custom function mp object",
    "",
    "typedef struct _mp_lv_obj_fun_builtin_var_t \x7b",
    "    mp_obj_base_t base;",
    "    mp_uint_t n_args;",
    "    mp_fun_var_t mp_fun;",
    "    void *lv_fun;",
    "\x7d mp_lv_obj_fun_builtin_var_t;",
    "",
    "STATIC mp_obj_t lv_fun_builtin_var_call(mp_obj_t self_in, size_t n_args, size_t n_kw, const mp_obj_t *args);",
    "STATIC mp_int_t mp_func_get_buffer(mp_obj_t self_in, mp_buffer_info_t *bufinfo, mp_uint_t flags);",
    "",
    "STATIC const mp_obj_type_t mp_lv_type_fun_builtin_var = \x7b",
    "    \x7b &mp_type_type \x7d,",
    "    .name = MP_QSTR_function,",
    "    .call = lv_fun_builtin_var_call,",
    "    .unary_op = mp_generic_unary_op,",
    "    .buffer_p = \x7b .get_buffer = mp_func_get_buffer \x7d",
    "\x7d;",
    "",
    "STATIC mp_obj_t lv_fun_builtin_var_call(mp_obj_t self_in, size_t n_args, size_t n_kw, const mp_obj_t *args) \x7b",
    "    assert(MP_OBJ_IS_TYPE(self_in, &mp_lv_type_fun_builtin_var));",
    "    mp_lv_obj_fun_builtin_var_t *self = MP_OBJ_TO_PTR(self_in);",
    "    mp_arg_check_num(n_args, n_kw, self->n_args, self->n_args, false);",
    "    return self->mp_fun(n_args, args);",
    "\x7d",
    "",
    "STATIC mp_int_t mp_func_get_buffer(mp_obj_t self_in, mp_buffer_info_t *bufinfo, mp_uint_t flags) \x7b",
    "    (void)flags;",
    "    assert(MP_OBJ_IS_TYPE(self_in, &mp_lv_type_fun_builtin_var));",
    "    mp_lv_obj_fun_builtin_var_t *self = MP_OBJ_TO_PTR(self_in);",
    "",
    "    bufinfo->buf = &self->lv_fun;",
    "    bufinfo->len = sizeof(self->lv_fun);",
    "    bufinfo->typecode = BYTEARRAY_TYPECODE;",
    "    return 0;",
    "\x7d",
    "",
    "#define MP_DEFINE_CONST_LV_FUN_OBJ_VAR(obj_name, n_args, mp_fun, lv_fun) \\",
    "    const mp_lv_obj_fun_builtin_var_t obj_name = \\",
    "        \x7b\x7b&mp_lv_type_fun_builtin_var\x7d, n_args, mp_fun, lv_fun\x7d",
    ""]

/-- Finding the object of the library behind an object of the script. -/
def casting : List String :=
  [
    "// Casting",
    "",
    "STATIC mp_obj_t get_native_obj(mp_obj_t *mp_obj)",
    "\x7b",
    "    if (!MP_OBJ_IS_OBJ(mp_obj)) return mp_obj;",
    "    const mp_obj_type_t *native_type = ((mp_obj_base_t*)mp_obj)->type;",
    "    if (native_type->parent == NULL) return mp_obj;",
    "    while (native_type->parent) native_type = native_type->parent;",
    "    return mp_instance_cast_to_native_base(mp_obj, MP_OBJ_FROM_PTR(native_type));",
    "\x7d",
    "",
    "STATIC mp_obj_t dict_to_struct(mp_obj_t dict, const mp_obj_type_t *type);",
    "",
    "STATIC mp_obj_t *cast(mp_obj_t *mp_obj, const mp_obj_type_t *mp_type)",
    "\x7b",
    "    mp_obj_t *res = NULL;",
    "    if (MP_OBJ_IS_OBJ(mp_obj))\x7b",
    "        res = get_native_obj(mp_obj);",
    "        if (res)\x7b",
    "            const mp_obj_type_t *res_type = ((mp_obj_base_t*)res)->type;",
    "            if (res_type != mp_type)\x7b",
    "                if (res_type == &mp_type_dict) res = dict_to_struct(res, mp_type);",
    "                else res = NULL;",
    "            \x7d",
    "        \x7d",
    "    \x7d",
    "    if (res == NULL) nlr_raise(",
    "        mp_obj_new_exception_msg_varg(",
    "            &mp_type_SyntaxError, \"Can't convert %s to %s!\", mp_obj_get_type_str(mp_obj), qstr_str(mp_type->name)));",
    "    return res;",
    "\x7d",
    ""]

/-- Objects of the library's classes, in modules that have classes. The record
    member of the given name leads from a C object to its script object. -/
def objects (userData : String) : List String :=
  [
    "// Object handling, only when the module defines objects",
    "",
    "#ifdef LV_OBJ_T",
    "",
    "typedef LV_OBJ_T* (*lv_create)(LV_OBJ_T * par, const LV_OBJ_T * copy);",
    "",
    "typedef struct mp_lv_obj_t \x7b",
    "    mp_obj_base_t base;",
    "    LV_OBJ_T *lv_obj;",
    "    LV_OBJ_T *callbacks;",
    "\x7d mp_lv_obj_t;",
    "",
    "STATIC inline LV_OBJ_T *mp_to_lv(mp_obj_t *mp_obj)",
    "\x7b",
    "    if (mp_obj == NULL || mp_obj == mp_const_none) return NULL;",
    "    mp_lv_obj_t *mp_lv_obj = MP_OBJ_TO_PTR(get_native_obj(mp_obj));",
    "    return mp_lv_obj->lv_obj;",
    "\x7d",
    "",
    "STATIC inline LV_OBJ_T *mp_get_callbacks(mp_obj_t mp_obj)",
    "\x7b",
    "    if (mp_obj == NULL || mp_obj == mp_const_none) return NULL;",
    "    mp_lv_obj_t *mp_lv_obj = MP_OBJ_TO_PTR(get_native_obj(mp_obj));",
    "    if (!mp_lv_obj->callbacks) mp_lv_obj->callbacks = mp_obj_new_dict(0);",
    "    return mp_lv_obj->callbacks;",
    "\x7d",
    "",
    "STATIC inline const mp_obj_type_t *get_BaseObj_type();",
    "",
    "STATIC inline mp_obj_t *lv_to_mp(LV_OBJ_T *lv_obj)",
    "\x7b",
    "    if (lv_obj == NULL) return mp_const_none;",
    s!"    mp_lv_obj_t *self = (mp_lv_obj_t*)lv_obj->{userData};",
    "    if (!self)",
    "    \x7b",
    "        self = m_new_obj(mp_lv_obj_t);",
    "        *self = (mp_lv_obj_t)\x7b",
    "            .base = \x7bget_BaseObj_type()\x7d,",
    "            .lv_obj = lv_obj,",
    "            .callbacks = NULL,",
    "        \x7d;",
    s!"        lv_obj->{userData} = self;",
    "    \x7d",
    "    return MP_OBJ_FROM_PTR(self);",
    "\x7d",
    "",
    "STATIC mp_obj_t make_new(",
    "    lv_create create,",
    "    const mp_obj_type_t *type,",
    "    size_t n_args,",
    "    size_t n_kw,",
    "    const mp_obj_t *args)",
    "\x7b",
    "    mp_arg_check_num(n_args, n_kw, 0, 2, false);",
    "    mp_lv_obj_t *self = m_new_obj(mp_lv_obj_t);",
    "    LV_OBJ_T *parent = n_args > 0? mp_to_lv(args[0]): NULL;",
    "    LV_OBJ_T *copy = n_args > 1? mp_to_lv(args[1]): NULL;",
    "    *self = (mp_lv_obj_t)\x7b",
    "        .base = \x7btype\x7d,",
    "        .lv_obj = create(parent, copy),",
    "        .callbacks = NULL,",
    "    \x7d;",
    "    if (!self->lv_obj) return mp_const_none;",
    s!"    self->lv_obj->{userData} = self;",
    "    return MP_OBJ_FROM_PTR(self);",
    "\x7d",
    "",
    "STATIC mp_int_t mp_obj_get_buffer(mp_obj_t self_in, mp_buffer_info_t *bufinfo, mp_uint_t flags) \x7b",
    "    (void)flags;",
    "    mp_lv_obj_t *self = MP_OBJ_TO_PTR(self_in);",
    "",
    "    bufinfo->buf = &self->lv_obj;",
    "    bufinfo->len = sizeof(self->lv_obj);",
    "    bufinfo->typecode = BYTEARRAY_TYPECODE;",
    "    return 0;",
    "\x7d",
    "",
    "#endif",
    ""]

/-- Truth values and texts. -/
def plainValues : List String :=
  [
    "STATIC inline mp_obj_t convert_to_bool(bool b)",
    "\x7b",
    "    return b? mp_const_true: mp_const_false;",
    "\x7d",
    "",
    "STATIC inline mp_obj_t convert_to_str(const char *str)",
    "\x7b",
    "    if (str == NULL) return mp_const_none;",
    "    return mp_obj_new_str(str, strlen(str));",
    "\x7d",
    ""]

/-- Records held by the script. -/
def records : List String :=
  [
    "// Struct handling",
    "",
    "typedef struct mp_lv_struct_t",
    "\x7b",
    "    mp_obj_base_t base;",
    "    void *data;",
    "\x7d mp_lv_struct_t;",
    "",
    "STATIC inline mp_lv_struct_t *mp_to_lv_struct(mp_obj_t mp_obj)",
    "\x7b",
    "    if (mp_obj == NULL || mp_obj == mp_const_none) return NULL;",
    "    if (!MP_OBJ_IS_OBJ(mp_obj)) nlr_raise(",
    "            mp_obj_new_exception_msg(",
    "                &mp_type_SyntaxError, \"Struct argument is not an object!\"));",
    "    mp_lv_struct_t *mp_lv_struct = MP_OBJ_TO_PTR(get_native_obj(mp_obj));",
    "    return mp_lv_struct;",
    "\x7d",
    "",
    "STATIC inline size_t get_lv_struct_size(const mp_obj_type_t *type)",
    "\x7b",
    "    mp_obj_t size_obj = mp_obj_dict_get(type->locals_dict, MP_OBJ_NEW_QSTR(MP_QSTR_SIZE));",
    "    return (size_t)mp_obj_get_int(size_obj);",
    "\x7d",
    "",
    "STATIC mp_obj_t make_new_lv_struct(",
    "    const mp_obj_type_t *type,",
    "    size_t n_args,",
    "    size_t n_kw,",
    "    const mp_obj_t *args)",
    "\x7b",
    "    size_t size = get_lv_struct_size(type);",
    "    mp_arg_check_num(n_args, n_kw, 0, 1, false);",
    "    mp_lv_struct_t *self = m_new_obj(mp_lv_struct_t);",
    "    *self = (mp_lv_struct_t)\x7b",
    "        .base = \x7btype\x7d,",
    "        .data = m_malloc(size)",
    "    \x7d;",
    "    mp_lv_struct_t *other = n_args > 0? mp_to_lv_struct(cast(args[0], type)): NULL;",
    "    if (other) \x7b",
    "        memcpy(self->data, other->data, size);",
    "    \x7d else \x7b",
    "        memset(self->data, 0, size);",
    "    \x7d",
    "    return MP_OBJ_FROM_PTR(self);",
    "\x7d",
    "",
    "STATIC void *copy_buffer(const void *buffer, size_t size)",
    "\x7b",
    "    void *new_buffer = m_malloc(size);",
    "    memcpy(new_buffer, buffer, size);",
    "    return new_buffer;",
    "\x7d",
    "",
    "// Reference an existing native struct (or part of it)",
    "",
    "STATIC mp_obj_t lv_to_mp_struct(const mp_obj_type_t *type, void *lv_struct)",
    "\x7b",
    "    if (lv_struct == NULL) return mp_const_none;",
    "    mp_lv_struct_t *self = m_new_obj(mp_lv_struct_t);",
    "    *self = (mp_lv_struct_t)\x7b",
    "        .base = \x7btype\x7d,",
    "        .data = lv_struct",
    "    \x7d;",
    "    return MP_OBJ_FROM_PTR(self);",
    "\x7d",
    ""]

/-- Records made from dictionaries. -/
def recordsFromDicts : List String :=
  [
    "// Convert dict to struct",
    "",
    "STATIC mp_obj_t dict_to_struct(mp_obj_t dict, const mp_obj_type_t *type)",
    "\x7b",
    "    mp_obj_t mp_struct = make_new_lv_struct(type, 0, 0, NULL);",
    "    mp_obj_t *native_dict = cast(dict, &mp_type_dict);",
    "    mp_map_t *map = mp_obj_dict_get_map(native_dict);",
    "    if (map == NULL) return mp_const_none;",
    "    for (uint i = 0; i < map->alloc; i++) \x7b",
    "        mp_obj_t key = map->table[i].key;",
    "        mp_obj_t value = map->table[i].value;",
    "        if (key != MP_OBJ_NULL) \x7b",
    "            type->attr(mp_struct, mp_obj_str_get_qstr(key), (mp_obj_t[])\x7bMP_OBJ_SENTINEL, value\x7d);",
    "        \x7d",
    "    \x7d",
    "    return mp_struct;",
    "\x7d",
    ""]

/-- Untyped pointers held by the script. -/
def blobs : List String :=
  [
    "// Blob wraps an untyped pointer",
    "",
    "STATIC void mp_blob_print(const mp_print_t *print,",
    "    mp_obj_t self_in,",
    "    mp_print_kind_t kind)",
    "\x7b",
    "    mp_printf(print, \"Blob\");",
    "\x7d",
    "",
    "STATIC mp_int_t mp_blob_get_buffer(mp_obj_t self_in, mp_buffer_info_t *bufinfo, mp_uint_t flags) \x7b",
    "    (void)flags;",
    "    mp_lv_struct_t *self = MP_OBJ_TO_PTR(self_in);",
    "",
    "    bufinfo->buf = &self->data;",
    "    bufinfo->len = sizeof(self->data);",
    "    bufinfo->typecode = BYTEARRAY_TYPECODE;",
    "    return 0;",
    "\x7d",
    "",
    "STATIC const mp_obj_fun_builtin_var_t mp_lv_dereference_obj;",
    "",
    "STATIC const mp_rom_map_elem_t mp_blob_locals_dict_table[] = \x7b",
    "    \x7b MP_ROM_QSTR(MP_QSTR___dereference__), MP_ROM_PTR(&mp_lv_dereference_obj) \x7d,",
    "\x7d;",
    "",
    "STATIC MP_DEFINE_CONST_DICT(mp_blob_locals_dict, mp_blob_locals_dict_table);",
    "",
    "STATIC const mp_obj_type_t mp_blob_type = \x7b",
    "    \x7b &mp_type_type \x7d,",
    "    .name = MP_QSTR_Blob,",
    "    .print = mp_blob_print,",
    "    .locals_dict = (mp_obj_dict_t*)&mp_blob_locals_dict,",
    "    .buffer_p = \x7b .get_buffer = mp_blob_get_buffer \x7d",
    "\x7d;",
    "",
    "STATIC void* mp_to_ptr(mp_obj_t self_in)",
    "\x7b",
    "    mp_buffer_info_t buffer_info;",
    "    if (self_in == mp_const_none)",
    "        return NULL;",
    "",
    "    mp_get_buffer_raise(self_in, &buffer_info, MP_BUFFER_READ);",
    "    if (MP_OBJ_IS_STR_OR_BYTES(self_in) ||",
    "        MP_OBJ_IS_TYPE(self_in, &mp_type_bytearray) ||",
    "        MP_OBJ_IS_TYPE(self_in, &mp_type_memoryview))",
    "            return buffer_info.buf;",
    "    else",
    "    \x7b",
    "        void *result;",
    "        if (buffer_info.len != sizeof(result) || buffer_info.typecode != BYTEARRAY_TYPECODE)\x7b",
    "            nlr_raise(",
    "                mp_obj_new_exception_msg_varg(",
    "                    &mp_type_SyntaxError, \"Cannot convert %s to pointer!\", mp_obj_get_type_str(self_in)));",
    "        \x7d",
    "        memcpy(&result, buffer_info.buf, sizeof(result));",
    "        return result;",
    "    \x7d",
    "\x7d",
    "",
    "STATIC inline mp_obj_t ptr_to_mp(void *data)",
    "\x7b",
    "    return lv_to_mp_struct(&mp_blob_type, data);",
    "\x7d",
    ""]

/-- Untyped pointers taken as pointers to records. -/
def pointerCasts : List String :=
  [
    "// Cast pointer to struct",
    "",
    "STATIC mp_obj_t mp_lv_cast(mp_obj_t type_obj, mp_obj_t ptr_obj)",
    "\x7b",
    "    mp_lv_struct_t *self = m_new_obj(mp_lv_struct_t);",
    "    *self = (mp_lv_struct_t)\x7b",
    "        .base = \x7b(const mp_obj_type_t*)type_obj\x7d,",
    "        .data = mp_to_ptr(ptr_obj)",
    "    \x7d;",
    "    return self;",
    "\x7d",
    "",
    "STATIC MP_DEFINE_CONST_FUN_OBJ_2(mp_lv_cast_obj, mp_lv_cast);",
    "STATIC MP_DEFINE_CONST_CLASSMETHOD_OBJ(mp_lv_cast_class_method, MP_ROM_PTR(&mp_lv_cast_obj));",
    ""]

/-- The memory behind a pointer. -/
def rawMemory : List String :=
  [
    "// Raw memory view over the data a struct or blob holds",
    "",
    "STATIC mp_obj_t mp_lv_dereference(size_t argc, const mp_obj_t *argv)",
    "\x7b",
    "    mp_obj_t self_in = argv[0];",
    "    mp_obj_t size_in = argc > 1? argv[1]: mp_const_none;",
    "    mp_lv_struct_t *self = MP_OBJ_TO_PTR(self_in);",
    "    size_t size = 0;",
    "    if (size_in == mp_const_none)\x7b",
    "        const mp_obj_type_t *type = self->base.type;",
    "        size = get_lv_struct_size(type);",
    "    \x7d else \x7b",
    "        size = (size_t)mp_obj_get_int(size_in);",
    "    \x7d",
    "    mp_obj_array_t *view = MP_OBJ_TO_PTR(mp_obj_new_memoryview(BYTEARRAY_TYPECODE,",
    "        size, self->data));",
    "    view->typecode |= 0x80; // writable",
    "    return MP_OBJ_FROM_PTR(view);",
    "\x7d",
    "",
    "STATIC MP_DEFINE_CONST_FUN_OBJ_VAR_BETWEEN(mp_lv_dereference_obj, 1, 2, mp_lv_dereference);",
    ""]

/-- Callables kept for callbacks. -/
def callbacks : List String :=
  [
    "// Callbacks",
    "// A callback argument is either a callable or a pointer. Callables are kept",
    "// in a dict of callback name -> callable, reachable from the user data of",
    "// the native struct. For objects the user data is the mp_lv_obj_t holding",
    "// the dict, for plain structs it is the dict itself.",
    "",
    "STATIC mp_obj_t get_callback_dict_from_user_data(void *user_data)",
    "\x7b",
    "    if (user_data)\x7b",
    "        mp_obj_t obj = MP_OBJ_FROM_PTR(user_data);",
    "#ifdef LV_OBJ_T",
    "        return",
    "            MP_OBJ_IS_TYPE(obj, &mp_type_dict)? obj:",
    "            mp_get_callbacks(obj);",
    "#else",
    "        return obj;",
    "#endif",
    "    \x7d",
    "    return NULL;",
    "\x7d",
    "",
    "STATIC void *mp_lv_callback(mp_obj_t mp_callback, void *lv_callback, qstr callback_name, void **user_data_ptr)",
    "\x7b",
    "    if (lv_callback && mp_obj_is_callable(mp_callback))\x7b",
    "        if (user_data_ptr)\x7b",
    "            // A NULL carrier belongs to a plain struct, which gets a fresh dict",
    "            if (! (*user_data_ptr) ) *user_data_ptr = MP_OBJ_TO_PTR(mp_obj_new_dict(0));",
    "            mp_obj_t callbacks = get_callback_dict_from_user_data(*user_data_ptr);",
    "            mp_obj_dict_store(callbacks, MP_OBJ_NEW_QSTR(callback_name), mp_callback);",
    "        \x7d",
    "        return lv_callback;",
    "    \x7d else \x7b",
    "        return mp_to_ptr(mp_callback);",
    "    \x7d",
    "\x7d",
    ""]

/-- The fixed part of a module, given the member that leads back to the script. -/
def lines (userData : String) : List String :=
  functionObjects
    ++ casting
    ++ objects userData
    ++ plainValues
    ++ records
    ++ recordsFromDicts
    ++ blobs
    ++ pointerCasts
    ++ rawMemory
    ++ callbacks

end Support

end ScriptBind

import ScriptBind.Proofs.CNames
import ScriptBind.Proofs.SourcedModules

/-!
# Converters of the Base Object

Pointers to the base object have a conversion from the beginning, by the two
converters `mp_to_lv` and `lv_to_mp`. The support code has these two only in
modules with classes: the text that defines them is skipped unless the base type
is defined, and it is defined only if there are classes.

What code calls them is found out from where its converters come from. Those
made for records and arrays have names of their own, so a call of either of the
two goes back to the conversion that was there from the beginning, and this one
is only met on the way from a type that mentions the base type. A library that
declares nothing of the kind can do without.

That does not make the two components agree. The conversion is there whether or
not classes are found, and a wrapper that takes a pointer to the base object
calls the converter in any case.

## Main definitions

* `Section.calls`: The converters that a piece of code calls.
* `baseConverters`: The two that are for modules with classes only.
* `CType.Mentions`, `Declarations.Mentions`: The types that types and declarations
  are made of.
* `Scope.sparing`: The scope of what does not mention the base type.

## Theorems

* `Section.Sourced.calls`: A converter that is called is one of a sourced
  conversion.
* `baseConverters_called`: The base converters are called if a function takes a
  pointer to the base object, and only if the base type is mentioned.
* `classless_calls`: This does not take any classes.
-/

namespace ScriptBind

section Calls

/-- The converters of a conversion. -/
def Conversion.converters (conversion : Conversion) : List String :=
  conversion.inward?.toList ++ conversion.outward :: conversion.byReference.toList

/-- The converters through which a member is stored and loaded. -/
def Access.calls : Access → List String
  | .value _ _ _ store load => [store, load]
  | .array _ _ _ _ store load => [store, load]
  | .callback _ _ _ _ => ["ptr_to_mp"]

/-- The converter of a value. -/
def Converted.calls : Converted → List String
  | .call converter _ => [converter]
  | .register _ _ _ => []

/-- The converters of the elements, and those of the array as a whole where it is
    passed untyped. -/
def ArrayConverter.calls (converter : ArrayConverter) : List String :=
  ["mp_to_ptr", converter.store] ++
    if converter.length.isSome then [converter.load] else ["ptr_to_mp"]

/-- The converters that a piece of code calls on the values of the library. -/
def Section.calls : Section → List String
  | .accessor code => code.accesses.flatMap Access.calls
  | .arrayConverter code => code.calls
  | .trampoline code => (code.arguments ++ code.result.toList).flatMap Converted.calls
  | .wrapper code =>
    (code.arguments.map Argument.value ++ code.result.toList).flatMap Converted.calls
  | _ => []

/-- The converters that are for modules with classes only. -/
def baseConverters : List String := ["mp_to_lv", "lv_to_mp"]

variable {library : Library} {scope : Scope library} {body : List Section} {name : String}

/-- A converter is that of a sourced conversion, or passes pointers untyped. -/
def Scope.Supplies (scope : Scope library) (body : List Section) (name : String) : Prop :=
  ∃ conversion, Conversion.Sourced scope body conversion ∧ name ∈ conversion.converters

theorem Conversion.mem_converters_of_inward {conversion : Conversion}
    (h : conversion.inward? = some name) : name ∈ conversion.converters := by
  rw [Conversion.converters, h]
  exact List.mem_append_left _ (List.mem_singleton_self _)

theorem Conversion.outward_mem_converters (conversion : Conversion) :
    conversion.outward ∈ conversion.converters :=
  List.mem_append_right _ (List.mem_cons_self ..)

theorem Converted.Inward.calls {conversion : Conversion} {value : Converted}
    (h : value.Inward conversion) (hn : name ∈ value.calls) : name ∈ conversion.converters := by
  cases value with
  | call converter expr =>
      rw [Converted.calls, List.mem_singleton] at hn
      rw [Converted.Inward] at h
      rw [hn]
      exact Conversion.mem_converters_of_inward h
  | register expr callback slot => cases hn

theorem Converted.Outward.calls {conversion : Conversion} {value : Converted}
    (h : value.Outward conversion) (hn : name ∈ value.calls) : name ∈ conversion.converters := by
  cases value with
  | call converter expr =>
      rw [Converted.calls, List.mem_singleton] at hn
      rw [Converted.Outward] at h
      rw [hn, h]
      exact conversion.outward_mem_converters
  | register expr callback slot => cases hn

theorem calls_of_ofConversion {field : Field} {typeName : String} {conversion : Conversion}
    {access : Access} (h : Access.ofConversion field typeName conversion = .ok access)
    (hn : name ∈ access.calls) : name ∈ conversion.converters := by
  rw [Access.ofConversion] at h
  cases hi : conversion.inward? with
  | none =>
      rw [hi] at h
      cases h
  | some store =>
      rw [hi] at h
      obtain rfl := Except.ok.inj h
      rcases List.mem_cons.1 hn with rfl | hn
      · exact Conversion.mem_converters_of_inward hi
      · rw [List.mem_singleton.1 hn]
        refine List.mem_append_right _ ?_
        cases conversion.byReference with
        | none => exact List.mem_cons_self ..
        | some load => exact List.mem_cons_of_mem _ (List.mem_singleton_self _)

theorem calls_of_ofArray {field : Field} {element : CType} {length : Nat} {conversion : Conversion}
    {access : Access} (h : Access.ofArray field element length conversion = .ok access)
    (hn : name ∈ access.calls) : name ∈ conversion.converters := by
  rw [Access.ofArray] at h
  cases hi : conversion.inward? with
  | none =>
      rw [hi] at h
      cases h
  | some store =>
      rw [hi] at h
      obtain rfl := Except.ok.inj h
      rcases List.mem_cons.1 hn with rfl | hn
      · exact Conversion.mem_converters_of_inward hi
      · rw [List.mem_singleton.1 hn]
        exact conversion.outward_mem_converters

/-- What passes pointers untyped is a converter like any other. -/
theorem supplies_untyped (hn : name ∈ ["mp_to_ptr", "ptr_to_mp"]) : scope.Supplies body name :=
  ⟨.untyped, .untyped, hn⟩

theorem Access.Sourced.calls {access : Access} (h : access.Sourced scope body)
    (hn : name ∈ access.calls) : scope.Supplies body name := by
  rcases h with hcallback | ⟨conversion, hc, ⟨field, typeName, ha⟩ | ⟨field, element, length, ha⟩⟩
  · cases access with
    | callback field typeName callback slot =>
        exact supplies_untyped (List.mem_cons_of_mem _ hn)
    | _ => cases hcallback
  · exact ⟨conversion, hc, calls_of_ofConversion ha hn⟩
  · exact ⟨conversion, hc, calls_of_ofArray ha hn⟩

theorem calls_ofElement {element : CType} {length : Option Nat} {conversion : Conversion}
    (hc : conversion.Sourced scope body)
    (hn : name ∈ (ArrayConverter.ofElement element length conversion).calls) :
    scope.Supplies body name := by
  have hstore : scope.Supplies body (conversion.inward?.getD "mp_to_ptr") := by
    cases hi : conversion.inward? with
    | none => exact supplies_untyped (by decide)
    | some store => exact ⟨conversion, hc, Conversion.mem_converters_of_inward hi⟩
  rw [ArrayConverter.calls] at hn
  rcases List.mem_append.1 hn with hn | hn
  · rcases List.mem_cons.1 hn with rfl | hn
    · exact supplies_untyped (by decide)
    · rw [List.mem_singleton.1 hn]
      exact hstore
  · split at hn
    · rw [List.mem_singleton.1 hn]
      exact ⟨conversion, hc, conversion.outward_mem_converters⟩
    · rw [List.mem_singleton.1 hn]
      exact supplies_untyped (by decide)

/-- A converter that sourced code calls is one of a sourced conversion. -/
theorem Section.Sourced.calls {code : Section} (h : code.Sourced scope body)
    (hn : name ∈ code.calls) : scope.Supplies body name := by
  cases code with
  | accessor code =>
      obtain ⟨access, ha, hn⟩ := List.mem_flatMap.1 hn
      exact (h access ha).calls hn
  | arrayConverter code =>
      obtain ⟨conversion, hc, he⟩ := h
      rw [Section.calls, he] at hn
      exact calls_ofElement hc hn
  | trampoline code =>
      obtain ⟨value, hv, hn⟩ := List.mem_flatMap.1 hn
      rcases List.mem_append.1 hv with ha | hr
      · obtain ⟨conversion, hc, hvalue⟩ := h.1 value ha
        exact ⟨conversion, hc, hvalue.calls hn⟩
      · obtain ⟨conversion, hc, hvalue⟩ := h.2 value (Option.mem_toList.1 hr)
        exact ⟨conversion, hc, hvalue.calls hn⟩
  | wrapper code =>
      obtain ⟨value, hv, hn⟩ := List.mem_flatMap.1 hn
      rcases List.mem_append.1 hv with hv | hr
      · obtain ⟨argument, ha, rfl⟩ := List.mem_map.1 hv
        obtain ⟨conversion, hc, hvalue, -⟩ := h.1 argument ha
        exact ⟨conversion, hc, hvalue.calls hn⟩
      · obtain ⟨conversion, hc, hvalue⟩ := h.2 value (Option.mem_toList.1 hr)
        exact ⟨conversion, hc, hvalue.calls hn⟩
  | _ => cases hn

end Calls

section Mentions

/-- The types that a type is made of, itself and the types of the members of
    records defined in place included. -/
inductive CType.Mentions : CType → CType → Prop where
  /-- It is the type. -/
  | self {type : CType} : Mentions type type
  /-- What a pointer points to. -/
  | pointee {type part : CType} {isConst : Bool} : type.Mentions part →
      Mentions (.pointer type isConst) part
  /-- The elements of an array. -/
  | element {type part : CType} {length : Nat} : type.Mentions part →
      Mentions (.array type length) part
  /-- What a function returns. -/
  | result {signature : Signature} {part : CType} : signature.result.Mentions part →
      Mentions (.function signature) part
  /-- What a function takes. -/
  | param {signature : Signature} {type part : CType} : type ∈ signature.params →
      type.Mentions part → Mentions (.function signature) part
  /-- The members of a record defined in place. -/
  | member {record : Record} {field : Field} {part : CType} : field ∈ record.flattened →
      field.type.Mentions part → Mentions (.anonymous record) part

/-- The types that declarations are made of. -/
inductive Declarations.Mentions (decls : Declarations) (part : CType) : Prop where
  /-- What a typedef stands for. -/
  | typedef {name : String} {type : CType} : decls.typedefs.get? name = some type →
      type.Mentions part → Mentions decls part
  /-- A member of a record. -/
  | member {key : String} {record : Record} {field : Field} :
      decls.records.get? key = some record → field ∈ record.flattened →
      field.type.Mentions part → Mentions decls part
  /-- What a function returns. -/
  | result {function : CFunction} : function ∈ decls.functions →
      function.result.Mentions part → Mentions decls part
  /-- What a function takes. -/
  | param {function : CFunction} {param : Parameter} : function ∈ decls.functions →
      param ∈ function.params → param.type.Mentions part → Mentions decls part
  /-- A variable. -/
  | global {global : Global} : global ∈ decls.globals → global.type.Mentions part →
      Mentions decls part

/-- A type is spelled like the base type or a pointer to it. -/
def CType.IsBase (naming : Naming) (type : CType) : Prop :=
  type.spelling = naming.baseType ∨ type.spelling = naming.baseType ++ " *"

/-- A type mentions the base type nowhere. -/
def CType.Spares (naming : Naming) (type : CType) : Prop :=
  ∀ part, type.Mentions part → ¬part.IsBase naming

variable {naming : Naming}

/-- The base type is named like a type of the library. -/
theorem fromEnd_baseType (naming : Naming) :
    ∃ rest, fromEnd naming.baseType = 't' :: '_' :: rest := by
  rw [Naming.baseType, Naming.inScope_eq_leading_append, ← String.append_assoc, fromEnd_append]
  exact ⟨_, rfl⟩

theorem not_isBase {type : CType} (ht : (fromEnd type.spelling).take 2 ≠ ['t', '_'])
    (hp : (fromEnd type.spelling).take 4 ≠ ['*', ' ', 't', '_']) : ¬type.IsBase naming := by
  obtain ⟨rest, hrest⟩ := fromEnd_baseType naming
  rintro (h | h)
  · rw [h, hrest] at ht
    exact ht rfl
  · rw [h, fromEnd_append, hrest] at hp
    exact hp rfl

/-- The cell for a pointer does without the base type. -/
theorem spares_pointerCell : ∀ field ∈ pointerCell.flattened, field.type.Spares naming := by
  have hvoid : ¬CType.void.IsBase naming := not_isBase (by decide) (by decide)
  have hint : ¬(CType.builtin "int").IsBase naming := not_isBase (by decide) (by decide)
  have hchar : ¬(CType.builtin "char").IsBase naming := not_isBase (by decide) (by decide)
  have hvoidPointer : ¬(CType.pointer .void false).IsBase naming :=
    not_isBase (by decide) (by decide)
  have hcharPointer : ¬(CType.pointer (.builtin "char") true).IsBase naming :=
    not_isBase (by decide) (by decide)
  intro field hm part hp
  rcases List.mem_cons.1 hm with rfl | hm
  · cases hp with
    | self => exact hvoidPointer
    | pointee hp => cases hp; exact hvoid
  rcases List.mem_cons.1 hm with rfl | hm
  · cases hp
    exact hint
  · obtain rfl := List.mem_singleton.1 hm
    cases hp with
    | self => exact hcharPointer
    | pointee hp => cases hp; exact hchar

/-- The scope of what does not mention the base type. -/
def Scope.sparing {library : Library}
    (h : ∀ part, library.decls.Mentions part → ¬part.IsBase library.naming) : Scope library where
  types := CType.Spares library.naming
  records := fun _ record => ∀ field ∈ record.flattened, field.type.Spares library.naming
  pointee := fun ht part hp => ht part (.pointee hp)
  element := fun ht part hp => ht part (.element hp)
  result := fun ht part hp => ht part (.result hp)
  param := fun ht hm part hp => ht part (.param hm hp)
  typedef := fun hn part hp => h part (.typedef hn hp)
  declared := fun hr _ hm part hp => h part (.member hr hm hp)
  cell := spares_pointerCell
  member := fun hr hm _ => hr _ hm
  nested := fun hr hm _ ht _ hi part hp => hr _ hm part (by rw [ht]; exact .member hi hp)

end Mentions

section Names

variable {library : Library} {name : String}

/-- A name that does not begin like the base converters is neither of them. -/
theorem not_mem_baseConverters {lead : String} (h : lead.toList[3]? ≠ some 't')
    (hl : 3 < lead.toList.length) (rest : String) : lead ++ rest ∉ baseConverters := by
  intro hm
  have hlead : (lead ++ rest).toList[3]? = lead.toList[3]? := by
    rw [String.toList_append, List.getElem?_append_left hl]
  rcases List.mem_cons.1 hm with he | hm
  · rw [he] at hlead
    exact h hlead.symm
  · rw [List.mem_singleton.1 hm] at hlead
    exact h hlead.symm

/-- The converters made for a record and for pointers to it. -/
theorem converters_members {members : BoundMembers}
    (hn : name ∈ members.conversion.converters ∨ name ∈ members.pointerConversion.converters) :
    name ∉ baseConverters := by
  have hnames : ∀ name ∈ ["mp_write_" ++ members.name, "mp_read_" ++ members.name,
      "mp_read_byref_" ++ members.name] ++ ["mp_write_ptr_" ++ members.name,
      "mp_read_ptr_" ++ members.name], name ∉ baseConverters := by
    simp only [List.cons_append, List.nil_append, List.forall_mem_cons]
    exact ⟨not_mem_baseConverters (by decide) (by decide) _,
      not_mem_baseConverters (by decide) (by decide) _,
      not_mem_baseConverters (by decide) (by decide) _,
      not_mem_baseConverters (by decide) (by decide) _,
      not_mem_baseConverters (by decide) (by decide) _, fun _ h => by cases h⟩
  exact hnames name (List.mem_append.2 hn)

/-- The converters made for an array type. -/
theorem converters_array {converter : ArrayConverter}
    (hn : name ∈ (Conversion.between converter.toArray converter.fromArray).converters) :
    name ∉ baseConverters := by
  rcases List.mem_cons.1 hn with rfl | hn
  · exact not_mem_baseConverters (by decide) (by decide) _
  · rw [List.mem_singleton.1 hn]
    exact not_mem_baseConverters (by decide) (by decide) _

/-- The conversion that pointers to the base object have from the beginning. -/
def Conversion.base : Conversion := .between "mp_to_lv" "lv_to_mp"

/-- The other conversions that need nothing to be generated do not call the base
    converters, and are not for pointers to a type named like a base type. -/
theorem seeds_cases (naming : Naming) : ∀ row ∈ Registry.seeds naming,
    row = (naming.baseType ++ " *", .base) ∨
      (∀ name ∈ row.2.converters, name ∉ baseConverters) ∧
        (fromEnd row.1).take 5 ≠ ['*', ' ', 't', '_', 'j'] := by
  have hsame : ∀ row ∈ Registry.unsignedTypes.map
        (Registry.casting "mp_obj_get_int" "mp_obj_new_int_from_uint")
      ++ Registry.signedTypes.map (Registry.casting "mp_obj_get_int" "mp_obj_new_int")
      ++ ["float", "double"].map (Registry.casting "mp_obj_get_float" "mp_obj_new_float"),
      (∀ name ∈ row.2.converters, name ∉ baseConverters) ∧
        (fromEnd row.1).take 5 ≠ ['*', ' ', 't', '_', 'j'] := by
    decide
  rw [Registry.seeds, List.append_assoc, List.append_assoc, ← List.append_assoc _ _ (List.map _ _)]
  refine List.forall_mem_append.2 ⟨?_, fun row hr => .inr (hsame row hr)⟩
  simp only [List.forall_mem_cons]
  exact ⟨.inr (by decide), .inr (by decide), .inr (by decide), .inr (by decide), .inr (by decide),
    .inr (by decide), .inl rfl, fun _ h => by cases h⟩

end Names

variable {library : Library} {body : List Section} {decls : Declarations} {options : Options}

/-- No conversion is looked up for pointers to the base object on the way from
    what does not mention it. -/
theorem ne_of_key_sparing
    {h : ∀ part, library.decls.Mentions part → ¬part.IsBase library.naming} {key : String}
    (hk : (Scope.sparing h).Key key) : key ≠ library.naming.baseType ++ " *" := by
  cases hk with
  | type ht => exact fun he => ht _ .self (.inr he)
  | pointer ht => exact fun he => ht _ .self (.inl ((String.append_left_inj _).1 he))
  | openArray ht => exact ne_star_of_lastOf (lastOf_array (.inr rfl)) (by decide) _
  | nameless owner field =>
      intro he
      have hstar := endsWithStar_memberTypeName owner field
      rw [he, endsWithStar_append] at hstar
      cases hstar

/-- What does not mention the base type is converted without the base
    converters. -/
theorem converters_sparing
    {h : ∀ part, library.decls.Mentions part → ¬part.IsBase library.naming}
    {conversion : Conversion} (hc : conversion.Sourced (Scope.sparing h) body) {name : String}
    (hn : name ∈ conversion.converters) : name ∉ baseConverters := by
  cases hc with
  | untyped =>
      exact (by decide : ∀ name ∈ Conversion.untyped.converters, name ∉ baseConverters) name hn
  | integer =>
      exact (by decide : ∀ name ∈ Conversion.integer.converters, name ∉ baseConverters) name hn
  | callback =>
      exact (by decide : ∀ name ∈ Conversion.callback.converters, name ∉ baseConverters) name hn
  | seed hk hs =>
      -- Of the conversions from the beginning only one calls them, and is not looked up.
      rcases seeds_cases library.naming _ (mem_of_get?_ofFirstRows hs) with he | hrow
      · exact absurd (Prod.mk.inj he).1 (ne_of_key_sparing hk)
      · exact hrow.1 name hn
  | record _ => exact converters_members (.inl hn)
  | pointer _ => exact converters_members (.inr hn)
  | array _ => exact converters_array hn

/-- Pointers to the base object have their conversion from the beginning. -/
theorem get?_seeded_base (options : Options) :
    (Registry.seeded options.naming).get? (options.naming.baseType ++ " *") = some .base := by
  have hrow :
      (options.naming.baseType ++ " *", Conversion.base) ∈ Registry.seeds options.naming := by
    rw [Registry.seeds]
    simp [Conversion.base]
  obtain ⟨conversion, hc⟩ := Option.isSome_iff_exists.1 (Table.contains_ofFirstRows hrow)
  rcases seeds_cases options.naming _ (mem_of_get?_ofFirstRows hc) with he | ⟨-, hkey⟩
  · rw [Registry.seeded, hc, (Prod.mk.inj he).2]
  · -- The base type of a module ends like the base object.
    have hobject : fromEnd (options.naming.baseObject ++ "_t") = ['t', '_', 'j', 'b', 'o'] := by
      show fromEnd ("obj" ++ "_t") = _
      decide
    have hstar : fromEnd " *" = ['*', ' '] := by decide
    refine absurd ?_ hkey
    rw [fromEnd_append, Naming.baseType, Naming.inScope_eq_leading_append, fromEnd_append, hobject,
      hstar]
    rfl

/-- What is sourced in any scope that the library is in. -/
theorem sourced_code {scope : Scope (libraryOf decls options)}
    (hf : ∀ function ∈ decls.functions, function.Within scope)
    (hg : ∀ global ∈ decls.globals, scope.types global.type) {code : Section}
    (hc : code ∈ (assemble decls options).body) : ∃ before, code.Sourced scope before := by
  rw [body_assemble] at hc
  obtain ⟨front, back, hb⟩ := List.append_of_mem hc
  exact ⟨front, (sourced_sessionAtEnd hf hg).body.section hb⟩

/-- A module calls the base converters only if its library mentions the base type
    or pointers to it, and does so, whatever its classes, for each argument of a
    wrapper that is such a pointer. -/
theorem baseConverters_called (decls : Declarations) (options : Options) :
    (∀ code ∈ (assemble decls options).body, ∀ name ∈ code.calls, name ∈ baseConverters →
      ∃ part, decls.Mentions part ∧ part.IsBase options.naming) ∧
    ∀ wrapper, .wrapper wrapper ∈ (assemble decls options).body → ∀ argument ∈ wrapper.arguments,
      argument.isCallback = false →
      argument.param.type.spelling = options.naming.baseType ++ " *" →
      ∃ expr, argument.value = .call "mp_to_lv" expr := by
  constructor
  · -- If nothing mentions the base type, the library is in the scope that spares it.
    intro code hc name hn hbase
    by_contra hnone
    have hspare : ∀ part, (libraryOf decls options).decls.Mentions part →
        ¬part.IsBase (libraryOf decls options).naming :=
      fun part hm hb => hnone ⟨part, hm, hb⟩
    have hf : ∀ function ∈ decls.functions, function.Within (Scope.sparing hspare) :=
      fun function hm => ⟨fun part hp => hspare part (.result hm hp),
        fun param hparam part hp => hspare part (.param hm hparam hp)⟩
    obtain ⟨before, hs⟩ := sourced_code hf (fun global hm part hp => hspare part (.global hm hp)) hc
    obtain ⟨conversion, hconversion, hn⟩ := hs.calls hn
    exact converters_sparing hconversion hn hbase
  · -- In the scope of everything, the conversion of an argument befits its type.
    intro wrapper hw argument ha hplain hb
    have hf : ∀ function ∈ decls.functions,
        function.Within (Scope.all (libraryOf decls options)) :=
      fun _ _ => ⟨trivial, fun _ _ => trivial⟩
    obtain ⟨before, hs⟩ := sourced_code hf (fun _ _ => trivial) hw
    obtain ⟨conversion, -, hvalue, hbefits⟩ := hs.1 argument ha
    have hne : ∀ element, argument.param.type ≠ .array element 0 := by
      intro element he
      rw [he] at hb
      exact ne_star_of_lastOf (lastOf_array (.inl ⟨0, rfl⟩)) (by decide) _ hb
    have hbase : conversion = .base :=
      hbefits hplain hne _ (hb ▸ get?_seeded_base options)
    rw [hbase] at hvalue
    cases hv : argument.value with
    | call converter expr =>
        rw [hv] at hvalue
        exact ⟨expr, by rw [Option.some.inj hvalue]⟩
    | register expr callback slot =>
        rw [hv] at hvalue
        cases hvalue

/-- A function that takes a base object, in a library without constructors. -/
def classless : Declarations where
  functions := [⟨"lv_f", .void, [⟨"o", .pointerTo (.named "lv_obj_t")⟩], false⟩]

set_option maxRecDepth 100000 in
/-- Its wrapper calls a base converter, but there are no classes. -/
theorem classless_calls :
    ¬∀ code ∈ (assemble classless { moduleName := "m", scope := some "lv" }).body,
      ∀ name ∈ code.calls, name ∈ baseConverters →
        (assemble classless { moduleName := "m", scope := some "lv" }).hasClasses = true := by
  have hcalls : "mp_to_lv" ∈
      (assemble classless { moduleName := "m", scope := some "lv" }).body.flatMap
        Section.calls := by
    decide +kernel
  have hclasses :
      (assemble classless { moduleName := "m", scope := some "lv" }).hasClasses = false := by
    decide +kernel
  intro hall
  obtain ⟨code, hc, hn⟩ := List.mem_flatMap.1 hcalls
  rw [hall code hc _ hn (by decide)] at hclasses
  cases hclasses

end ScriptBind

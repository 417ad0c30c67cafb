import Mathlib.Data.List.Nodup
import ScriptBind.Proofs.FunctionAccounts

/-!
# The Variables of a Wrapper

A wrapper keeps each argument in a variable. The variable has the name of the parameter,
or one made from its position where the header gives none. By these names the function is
called with the arguments, callables are registered in the record that the first argument
points to, and the description of the module shows the parameters.

Names made from positions differ from each other, and those that a header gives may be
supposed to. But a header may give one parameter the name that is made from the position of
another, and nobody looks whether it does. The variables have different names exactly if
this does not happen, and then each argument is passed on in its place. In the whole of a
wrapper no name is declared twice if, besides, no parameter has one of the names that its
head and the result of the call take.

## Main definitions

* `givenNames`: The names that a header gives to parameters.
* `CFunction.Clashes`: A position whose name is given to another parameter.
* `Wrapper.passed`: What the function is called with.
* `Wrapper.declared`: The names that are declared in a wrapper.

## Theorems

* `nodup_namedParams_iff`: When the parameters of a wrapper have different names.
* `wrapFunction_writes`: What the wrapper of a function is made of.
* `Wrapper.passed_eq`: Variables of different names pass each argument on in its place.
* `Wrapper.Serves.nodup_declared_iff`: When a wrapper declares no name twice.
* `variables_differ_iff`: All of this for each function.
* `mixedMove_differs`: A function with named and nameless parameters.
* `namelessMove_clashes`: A function whose second parameter clashes with the first.
-/

namespace ScriptBind

open BindM

section Names

theorem toList_positionalName (index : Nat) :
    (positionalName index).toList = 'a' :: 'r' :: 'g' :: Nat.toDigits 10 index := by
  have hname : positionalName index = "arg" ++ toString index := rfl
  rw [hname, String.toList_append, Nat.toString_eq_repr, Nat.toList_repr]
  rfl

/-- Different positions have different names. -/
theorem eq_of_positionalName {i j : Nat} (h : positionalName i = positionalName j) : i = j := by
  have hdigits : Nat.toDigits 10 i = Nat.toDigits 10 j := by
    have hlist := congrArg String.toList h
    rw [toList_positionalName, toList_positionalName] at hlist
    simpa using hlist
  rw [← Nat.ofDigitChars_ten_toDigits (n := i), hdigits, Nat.ofDigitChars_ten_toDigits]

/-- A name that does not start with the letter of those made from positions is none of them. -/
theorem ne_positionalName {name : String} (h : name.toList.head? ≠ some 'a') (index : Nat) :
    name ≠ positionalName index := by
  rintro rfl
  exact h (by rw [toList_positionalName, List.head?_cons])

theorem positionalName_ne_empty (index : Nat) : positionalName index ≠ "" :=
  (ne_positionalName (by decide) index).symm

variable {params : List Parameter} {param : Parameter}

theorem name_namedParam_of_empty (h : param.name = "") (index : Nat) :
    (namedParam index param).name = positionalName index := by
  rw [namedParam, if_pos h]

theorem name_namedParam_of_ne (h : param.name ≠ "") (index : Nat) :
    (namedParam index param).name = param.name := by
  rw [namedParam, if_neg h]

/-- The names that a header gives to parameters. -/
def givenNames (params : List Parameter) : List String :=
  (params.map Parameter.name).filter (· != "")

theorem mem_givenNames {name : String} :
    name ∈ givenNames params ↔ (∃ param ∈ params, param.name = name) ∧ name ≠ "" := by
  rw [givenNames, List.mem_filter, List.mem_map, bne_iff_ne]

/-- Given names differ if no two parameters are given the same one. -/
theorem nodup_givenNames_iff :
    (givenNames params).Nodup ↔ params.Pairwise fun param other =>
      param.name ≠ "" → other.name ≠ "" → param.name ≠ other.name := by
  simp only [givenNames, List.Nodup, List.pairwise_filter, List.pairwise_map, bne_iff_ne]

/-- The names of variables differ exactly if those given do and none of them is made from
    the position of a parameter that has none. -/
theorem nodup_mapIdx_namedParam_iff :
    ((params.mapIdx namedParam).map Parameter.name).Nodup ↔
      (givenNames params).Nodup ∧ ∀ index param, params[index]? = some param → param.name = "" →
        positionalName index ∉ givenNames params := by
  rw [nodup_givenNames_iff, List.Nodup, List.pairwise_map, List.pairwise_iff_getElem,
    List.pairwise_iff_getElem]
  simp only [List.getElem_mapIdx, List.length_mapIdx]
  constructor
  · intro hdiffer
    refine ⟨fun i j hi hj hij hni hnj => ?_, fun index param hp he hm => ?_⟩
    · rw [← name_namedParam_of_ne hni i, ← name_namedParam_of_ne hnj j]
      exact hdiffer i j hi hj hij
    · obtain ⟨⟨other, hother, hname⟩, -⟩ := mem_givenNames.1 hm
      obtain ⟨hindex, rfl⟩ := List.getElem?_eq_some_iff.1 hp
      obtain ⟨j, hj, rfl⟩ := List.getElem_of_mem hother
      have hne : params[j].name ≠ "" := hname ▸ positionalName_ne_empty index
      have hsame : (namedParam index params[index]).name = (namedParam j params[j]).name := by
        rw [name_namedParam_of_empty he, name_namedParam_of_ne hne, hname]
      -- The parameter with the name may come before the nameless one or after it.
      rcases Nat.lt_trichotomy index j with hlt | rfl | hlt
      · exact hdiffer index j hindex hj hlt hsame
      · exact hne he
      · exact hdiffer j index hj hindex hlt hsame.symm
  · rintro ⟨hgiven, hfree⟩ i j hi hj hij
    by_cases hei : params[i].name = "" <;> by_cases hej : params[j].name = ""
    · rw [name_namedParam_of_empty hei, name_namedParam_of_empty hej]
      exact fun h => Nat.ne_of_lt hij (eq_of_positionalName h)
    · rw [name_namedParam_of_empty hei, name_namedParam_of_ne hej]
      exact fun h => hfree i _ (List.getElem?_eq_getElem hi) hei
        (mem_givenNames.2 ⟨⟨_, List.getElem_mem hj, h.symm⟩, positionalName_ne_empty i⟩)
    · rw [name_namedParam_of_ne hei, name_namedParam_of_empty hej]
      exact fun h => hfree j _ (List.getElem?_eq_getElem hj) hej
        (mem_givenNames.2 ⟨⟨_, List.getElem_mem hi, h⟩, positionalName_ne_empty j⟩)
    · rw [name_namedParam_of_ne hei, name_namedParam_of_ne hej]
      exact hgiven i j hi hj hij hei hej

/-- A name that is made from no position is that of a variable only if it is given. -/
theorem mem_names_mapIdx_namedParam_iff {name : String}
    (hn : ∀ index, name ≠ positionalName index) :
    name ∈ (params.mapIdx namedParam).map Parameter.name ↔ name ∈ givenNames params := by
  simp only [List.mem_map, List.mem_mapIdx, mem_givenNames]
  constructor
  · rintro ⟨_, ⟨index, hi, rfl⟩, rfl⟩
    by_cases he : params[index].name = ""
    · exact absurd (name_namedParam_of_empty he index) (hn index)
    · rw [name_namedParam_of_ne he]
      exact ⟨⟨_, List.getElem_mem hi, rfl⟩, he⟩
  · rintro ⟨⟨param, hm, rfl⟩, hne⟩
    obtain ⟨index, hi, rfl⟩ := List.getElem_of_mem hm
    exact ⟨_, ⟨index, hi, rfl⟩, name_namedParam_of_ne hne index⟩

end Names

section Functions

variable {function : CFunction}

/-- The position of a nameless parameter makes a name that the header gives to another. -/
def CFunction.Clashes (function : CFunction) (index : Nat) : Prop :=
  (∃ param, function.effectiveParams[index]? = some param ∧ param.name = "") ∧
    positionalName index ∈ givenNames function.effectiveParams

/-- A call has to give all parameters, unless there is only one and it is none. -/
theorem effectiveParams_cases (function : CFunction) :
    function.effectiveParams = function.params ∨
      function.effectiveParams = [] ∧ ∃ only, function.params = [only] := by
  unfold CFunction.effectiveParams
  split
  · next only hparams =>
      split
      · exact .inr ⟨rfl, only, hparams⟩
      · exact .inl hparams.symm
  · exact .inl rfl

/-- It makes no difference for given names whether a lone parameter counts. -/
theorem nodup_givenNames_effectiveParams :
    (givenNames function.effectiveParams).Nodup ↔ (givenNames function.params).Nodup := by
  rcases effectiveParams_cases function with he | ⟨he, only, hp⟩
  · rw [he]
  · rw [he, hp, nodup_givenNames_iff, nodup_givenNames_iff]
    exact iff_of_true .nil (List.pairwise_singleton _ _)

/-- The parameters of a wrapper have different names exactly if those that the header gives
    are different and none clashes. -/
theorem nodup_namedParams_iff :
    ((namedParams function).map Parameter.name).Nodup ↔
      (givenNames function.params).Nodup ∧ ∀ index, ¬function.Clashes index := by
  rw [namedParams, nodup_mapIdx_namedParam_iff, nodup_givenNames_effectiveParams]
  refine and_congr_right fun _ => ⟨fun hfree index => ?_, fun hfree index param hp he hm => ?_⟩
  · rintro ⟨⟨param, hp, he⟩, hm⟩
    exact hfree index param hp he hm
  · exact hfree index ⟨⟨param, hp, he⟩, hm⟩

end Functions

section Values

/-- The expression that a value is converted from. -/
def Converted.source : Converted → String
  | .call _ expr => expr
  | .register expr _ _ => expr

/-- The name that leads to the record in which a callable is registered, if it is registered
    in one. -/
def Converted.base? : Converted → Option String
  | .register _ _ (.member base _) => some base
  | _ => none

/-- A value is converted from the expression at a site, and what is registered in a record is
    registered in that of the first parameter there. -/
def Converted.IsAt (value : Converted) (site : Site) : Prop :=
  value.source = site.expr ∧ ∀ base ∈ value.base?, base ∈ site.first.map Parameter.name

/-- A slot in a record lies behind the name that leads to the record. -/
theorem Callback.base?_slot (callback : Callback) (userData expr name : String) :
    ∀ base ∈ (Converted.register expr callback (callback.slot userData name)).base?,
    base = name := by
  intro base hb
  rw [Callback.slot] at hb
  split at hb
  · exact (Option.some.inj hb).symm
  · cases hb
  · exact (Option.some.inj hb).symm

theorem Site.register_isAt (site : Site) (naming : Naming) (callback : Callback) :
    (Converted.register site.expr callback (site.slot naming callback)).IsAt site := by
  refine ⟨rfl, fun base hb => ?_⟩
  rw [Site.slot] at hb
  split at hb
  · next first hf =>
      split at hb
      · cases hb
      · rw [hf, callback.base?_slot _ _ _ base hb]
        rfl
  · cases hb

variable (library : Library)

/-- A value on its way to C is converted where it is. -/
theorem convertInward_isAt (conversion : Conversion) (site : Site) :
    Answers library (fun value => value.IsAt site) (convertInward conversion site) := by
  rw [convertInward, convertWith]
  split
  · exact .pure ⟨rfl, fun base hb => by cases hb⟩
  · rw [registerCallable, registerWith]
    refine .bind (.any _) fun known _ => ?_
    dsimp only
    split
    · exact .fail _
    · split
      · exact .fail _
      · exact .bind (.any _) fun callback _ => .bind (.any _) fun _ _ =>
          .pure (site.register_isAt _ callback)

/-- An argument is converted from the script's argument at its position. -/
theorem wrapArgument_isAt (function : String) (params : List Parameter) (index : Nat)
    (param : Parameter) :
    Answers library (fun argument => argument.value.IsAt (argumentSite function params index param))
      (wrapArgument function params index param) := by
  rw [wrapArgument]
  refine .bind (.any _) fun conversion _ => .bind (.any _) fun isCallback _ => ?_
  split
  · rw [wrapCallback]
    refine .bind (convertInward_isAt library conversion _).attempt fun result hresult => ?_
    cases result with
    | ok value => exact .pure (hresult value rfl)
    | error error =>
        refine .bind (.any _) fun _ _ => .pure ⟨rfl, fun base hb => ?_⟩
        cases hb
  · exact .bind (convertInward_isAt library conversion _) fun value hvalue => .pure hvalue

/-- So are all arguments, by their positions. -/
theorem wrapArguments_areAt (function : String) (params : List Parameter) (index : Nat)
    (rest : List Parameter) :
    Answers library (fun arguments => ∀ (i : Nat) (argument : Argument),
        arguments[i]? = some argument →
        ∃ param, argument.value.IsAt (argumentSite function params (index + i) param))
      (wrapArguments function params index rest) := by
  induction rest generalizing index with
  | nil => exact .pure fun i argument h => by cases h
  | cons param rest ih =>
      rw [wrapArguments]
      refine .bind (wrapArgument_isAt library _ _ _ _) fun first hfirst =>
        .bind (ih (index + 1)) fun others hothers => .pure fun i argument h => ?_
      cases i with
      | zero =>
          rw [← Option.some.inj h]
          exact ⟨param, hfirst⟩
      | succ i =>
          rw [Nat.add_comm i, ← Nat.add_assoc]
          exact hothers i argument h

end Values

namespace Wrapper

/-- What the variable of a name holds. -/
def value? (wrapper : Wrapper) (name : String) : Option Converted :=
  (wrapper.arguments.find? (·.param.name == name)).map Argument.value

/-- What the function is called with: the values of the variables that the call names. -/
def passed (wrapper : Wrapper) : List (Option Converted) :=
  wrapper.params.map fun param => wrapper.value? param.name

/-- The names that are declared in a wrapper: those that its head takes for the script's
    arguments and their number, those of the variables, and that of the result of the call,
    if there is one. -/
def declared (wrapper : Wrapper) : List String :=
  ["mp_n_args", "mp_args"] ++ wrapper.params.map Parameter.name ++
    if wrapper.result.isSome then ["_res"] else []

/-- What the wrapper of a function is made of: its arguments are for the parameters in
    order, each is converted from the script's argument at its position, callables are
    registered in the record of the first parameter, if in any, and what the function
    returns is there unless it returns nothing. -/
structure Serves (wrapper : Wrapper) (function : CFunction) : Prop where
  isOf : wrapper.function = function
  params : wrapper.params = namedParams function
  arguments : ∀ (i : Nat) (argument : Argument), wrapper.arguments[i]? = some argument →
    argument.value.source = s!"mp_args[{i}]" ∧
      ∀ base ∈ argument.value.base?, base ∈ (namedParams function).head?.map Parameter.name
  result : wrapper.result.isSome = !function.result.isVoid

variable {wrapper : Wrapper} {function : CFunction}

/-- Variables of different names pass each argument on in its place. -/
theorem passed_eq (hd : (wrapper.params.map Parameter.name).Nodup) :
    wrapper.passed = wrapper.arguments.map fun argument => some argument.value := by
  rw [params, List.map_map] at hd
  rw [passed, params, List.map_map]
  refine List.map_congr_left fun argument hm => ?_
  have hfirst : wrapper.arguments.find? (·.param.name == argument.param.name) = some argument :=
    find?_name hd hm
  show (wrapper.arguments.find? _).map Argument.value = some argument.value
  rw [hfirst, Option.map_some]

/-- The wrapper of a function declares no name twice exactly if its parameters have
    different names and none of them is given one of those for the script's arguments and,
    if the function returns something, for the result of the call. -/
theorem Serves.nodup_declared_iff (h : wrapper.Serves function) :
    wrapper.declared.Nodup ↔
      ((namedParams function).map Parameter.name).Nodup ∧
        "mp_n_args" ∉ givenNames function.effectiveParams ∧
        "mp_args" ∉ givenNames function.effectiveParams ∧
        (function.result.isVoid ∨ "_res" ∉ givenNames function.effectiveParams) := by
  -- None of the three names is made from a position.
  have hgiven : ∀ name : String, name.toList.head? ≠ some 'a' →
      (name ∈ (namedParams function).map Parameter.name ↔
        name ∈ givenNames function.effectiveParams) :=
    fun name hn => mem_names_mapIdx_namedParam_iff (ne_positionalName hn)
  rw [declared, h.params, h.result, ← hgiven "mp_n_args" (by decide),
    ← hgiven "mp_args" (by decide), ← hgiven "_res" (by decide)]
  generalize (namedParams function).map Parameter.name = names
  have hhead : ∀ rest : List String, (["mp_n_args", "mp_args"] ++ rest).Nodup ↔
      rest.Nodup ∧ "mp_n_args" ∉ rest ∧ "mp_args" ∉ rest := by
    intro rest
    simp [and_comm, and_assoc]
  have hresult : (names ++ ["_res"]).Nodup ↔ "_res" ∉ names ∧ names.Nodup :=
    List.nodup_append_comm.trans List.nodup_cons
  rw [List.append_assoc, hhead]
  cases function.result.isVoid with
  | true => simp
  | false => simp [hresult, and_comm, and_assoc]

end Wrapper

section Writing

variable {library : Library} {session : Session} {function : CFunction}

/-- What a function returns is converted unless it returns nothing. -/
theorem wrapResult_isSome (library : Library) (function : CFunction) :
    Answers library (fun value => value.isSome = !function.result.isVoid)
      (wrapResult function) := by
  rw [wrapResult]
  split
  · next hv => exact .pure (by rw [hv]; rfl)
  · next hv => exact .bind (.any _) fun conversion _ => .pure (by rw [Bool.eq_false_iff.2 hv]; rfl)

/-- The wrapper of a function is written at the very end. -/
theorem wrapFunction_writes (library : Library) (function : CFunction) (session : Session) :
    Ensures True library (wrapFunction function) session fun result session' =>
      ∀ wrapped, result = .ok wrapped → ∃ wrapper : Wrapper, wrapper.Serves function ∧
        wrapped = wrapper.wrapped ∧ session'.body.getLast? = some (.wrapper wrapper) := by
  rw [wrapFunction]
  split
  · intro wrapped he
    cases he
  · dsimp only
    rw [ensures_bind]
    refine ((wrapArguments_params library _ _ _ _ session).and
      (wrapArguments_areAt library _ _ _ _ session)).mono fun result session₁ hall => ?_
    cases result with
    | error error =>
        intro wrapped he
        cases he
    | ok arguments =>
        have hparams := hall.1 arguments rfl
        dsimp only
        rw [ensures_bind]
        refine (wrapResult_isSome library function session₁).mono fun result session₂ hresult => ?_
        cases result with
        | error error =>
            intro wrapped he
            cases he
        | ok value =>
            dsimp only
            rw [ensures_bind, ensures_update, ensures_pure]
            intro wrapped he
            refine ⟨⟨function, arguments, value⟩, ⟨rfl, hparams, fun i argument ha => ?_,
              hresult value rfl⟩, ?_, List.getLast?_concat⟩
            · obtain ⟨param, hsource, hbase⟩ := hall.2 arguments rfl i argument ha
              rw [Nat.zero_add] at hsource
              exact ⟨hsource, hbase⟩
            · rw [← Except.ok.inj he, Wrapper.wrapped, Wrapper.params, hparams]

/-- The parameters of a wrapper have different names exactly if the header gives different
    ones and none that is made from the position of a nameless parameter. Whenever a function
    gets its wrapper, this holds one argument for each parameter, converted from the script's
    argument at its position, and passes it on in its place if the names are different; and
    it declares no name twice exactly if they are and no parameter is given one of the names
    that the wrapper needs for itself. -/
theorem variables_differ_iff (function : CFunction) :
    (((namedParams function).map Parameter.name).Nodup ↔
      (givenNames function.params).Nodup ∧ ∀ index, ¬function.Clashes index) ∧
    ∀ library session wrapped session',
      (wrapFunction function).outcome library session = some (.ok wrapped, session') →
      wrapped.params = namedParams function ∧
      ∃ wrapper : Wrapper, session'.body.getLast? = some (.wrapper wrapper) ∧
        wrapper.Serves function ∧
        (((namedParams function).map Parameter.name).Nodup →
          wrapper.passed = wrapper.arguments.map fun argument => some argument.value) ∧
        (wrapper.declared.Nodup ↔
          ((namedParams function).map Parameter.name).Nodup ∧
            "mp_n_args" ∉ givenNames function.effectiveParams ∧
            "mp_args" ∉ givenNames function.effectiveParams ∧
            (function.result.isVoid ∨ "_res" ∉ givenNames function.effectiveParams)) := by
  refine ⟨nodup_namedParams_iff, fun library session wrapped session' ho => ?_⟩
  obtain ⟨wrapper, hserves, hwrapped, hlast⟩ :=
    (wrapFunction_writes library function session).of_outcome ho wrapped rfl
  refine ⟨?_, wrapper, hlast, hserves, fun hd => ?_, hserves.nodup_declared_iff⟩
  · rw [hwrapped]
    exact hserves.params
  · exact Wrapper.passed_eq (hserves.params ▸ hd)

/-- A function with named and nameless parameters, one of which is given the name of a
    position at which there is a name. -/
def mixedMove : CFunction :=
  ⟨"lv_move", .builtin "int", [⟨"arg2", .builtin "int"⟩, ⟨"", .builtin "int"⟩,
    ⟨"y", .builtin "int"⟩, ⟨"", .builtin "int"⟩], false⟩

set_option maxRecDepth 100000 in
/-- Its variables have different names, and each of its arguments is passed on in its place. -/
theorem mixedMove_differs :
    let library := libraryOf {} { moduleName := "m" }
    (givenNames mixedMove.params).Nodup ∧ (∀ index, ¬mixedMove.Clashes index) ∧
      ∃ wrapped session',
        (wrapFunction mixedMove).outcome library (.start library.naming) =
          some (.ok wrapped, session') ∧
        wrapped.params.map Parameter.name = ["arg2", "arg1", "y", "arg3"] ∧
        ∃ wrapper : Wrapper, session'.body.getLast? = some (.wrapper wrapper) ∧
          wrapper.Serves mixedMove ∧
          wrapper.passed = (wrapper.arguments.map fun argument => some argument.value) ∧
          wrapper.declared.Nodup := by
  intro library
  have hnames : ((namedParams mixedMove).map Parameter.name).Nodup := by decide +kernel
  have hwrapped : ((wrapFunction mixedMove).run "" library
      (.start library.naming)).1.toOption.isSome := by
    decide +kernel
  obtain ⟨hiff, hserves⟩ := variables_differ_iff mixedMove
  obtain ⟨hgiven, hfree⟩ := hiff.1 hnames
  obtain ⟨wrapped, hwrapped⟩ := Option.isSome_iff_exists.1 hwrapped
  have ho := outcome_of_toOption hwrapped
  obtain ⟨hparams, wrapper, hlast, hserves, hpassed, hdeclared⟩ := hserves _ _ _ _ ho
  refine ⟨hgiven, hfree, wrapped, _, ho, ?_, wrapper, hlast, hserves, hpassed hnames,
    hdeclared.2 ⟨hnames, by decide, by decide, .inr (by decide)⟩⟩
  rw [hparams]
  decide +kernel

/-- A function whose first parameter is given the name of its nameless second one. -/
def namelessMove : CFunction :=
  ⟨"lv_move", .void, [⟨"arg1", .builtin "int"⟩, ⟨"", .builtin "int"⟩], false⟩

set_option maxRecDepth 100000 in
/-- Its wrapper declares one variable twice and passes it on for both. -/
theorem namelessMove_clashes :
    let library := libraryOf {} { moduleName := "m" }
    let session := ((wrapFunction namelessMove).run "" library (.start library.naming)).2
    (givenNames namelessMove.params).Nodup ∧ namelessMove.Clashes 1 ∧
      ¬((namedParams namelessMove).map Parameter.name).Nodup ∧
      (session.body.getLast?.bind Section.wrapper?).map (fun wrapper =>
          (wrapper.arguments.map Argument.statement, wrapper.call)) =
        some (["int arg1 = (int)mp_obj_get_int(mp_args[0]);",
          "int arg1 = (int)mp_obj_get_int(mp_args[1]);"], "lv_move(arg1, arg1);") := by
  exact ⟨by decide, ⟨⟨_, rfl, rfl⟩, by decide +kernel⟩, by decide +kernel, by decide +kernel⟩

end Writing

end ScriptBind

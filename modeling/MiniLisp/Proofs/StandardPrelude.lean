import Mathlib
import MiniLisp.Proofs.Exhaustion
import MiniLisp.Proofs.Pairing.Twins
import MiniLisp.Proofs.ReadTerms
import MiniLisp.Proofs.RootScope
import MiniLisp.Proofs.Template

/-! # The standard prelude

    The standard prelude adds three macros and defines thirteen functions. Its
    forms are read and expanded here once and for all: expanding it takes five
    numbers of choices and leaves the variables alone, and evaluating what it
    is expanded to binds the functions and does nothing else.

    * **`Prelude.parseWithin_standard`** — the forms of the prelude;
    * **`Prelude.expandAll_standard`** — what they are expanded to;
    * **`Prelude.evaluate_definition`** — what becomes of a definition. -/

namespace MiniLisp

namespace Prelude

/-! ## Its forms -/

/-- The forms that add macros. -/
def macroForms : List Term := [
  .list [.sym "defmacro" 3, .sym "def" 3, .sym "define" 3],
  .list [.sym "defmacro" 4, .sym "fn" 4, .sym "lambda" 4],
  .list [.sym "defmacro" 6, .sym "defun" 6, .list [.sym "name" 6, .sym "vars" 6, .sym "body" 6],
    .list [.sym "list" 7, .list [.sym "quote" 7, .sym "define" 7], .sym "name" 7,
      .list [.sym "list" 8, .list [.sym "quote" 8, .sym "lambda" 8], .sym "vars" 9,
        .sym "body" 10]]]]

/-- The forms that define functions. -/
def functionForms : List Term := [
  .list [.sym "defn" 14, .sym "not" 14, .list [.sym "a" 14],
    .list [.sym "if" 15, .sym "a" 15, .bool false, .bool true]],
  .list [.sym "defn" 17, .sym "or" 17, .list [.sym "a" 17, .sym "b" 17],
    .list [.sym "if" 18, .sym "a" 18, .bool true,
      .list [.sym "if" 18, .sym "b" 18, .bool true, .bool false]]],
  .list [.sym "defn" 20, .sym "and" 20, .list [.sym "a" 20, .sym "b" 20],
    .list [.sym "if" 21, .sym "a" 21, .list [.sym "if" 21, .sym "b" 21, .bool true, .bool false],
      .bool false]],
  .list [.sym "defn" 23, .sym "<=" 23, .list [.sym "a" 23, .sym "b" 23],
    .list [.sym "or" 24, .list [.sym "<" 24, .sym "a" 24, .sym "b" 24],
      .list [.sym "=" 24, .sym "a" 24, .sym "b" 24]]],
  .list [.sym "defn" 26, .sym ">" 26, .list [.sym "a" 26, .sym "b" 26],
    .list [.sym "not" 27, .list [.sym "<=" 27, .sym "a" 27, .sym "b" 27]]],
  .list [.sym "defn" 29, .sym ">=" 29, .list [.sym "a" 29, .sym "b" 29],
    .list [.sym "or" 30, .list [.sym ">" 30, .sym "a" 30, .sym "b" 30],
      .list [.sym "=" 30, .sym "a" 30, .sym "b" 30]]],
  .list [.sym "defn" 32, .sym "!=" 32, .list [.sym "a" 32, .sym "b" 32],
    .list [.sym "not" 33, .list [.sym "=" 33, .sym "a" 33, .sym "b" 33]]],
  .list [.sym "defn" 35, .sym "strlen" 35, .list [.sym "s" 35],
    .list [.sym "len" 36, .list [.sym "str->list" 36, .sym "s" 36]]]]

/-- The forms that define functions of the host. -/
def hostForms : List Term := [
  .list [.sym "defn" 40, .sym "mod" 40, .list [.sym "a" 40, .sym "b" 40],
    .list [.sym "native" 41, .str "a % b", .sym "a" 41, .sym "b" 41]],
  .list [.sym "defn" 43, .sym "abs" 43, .list [.sym "a" 43],
    .list [.sym "native" 44, .str "abs(a)", .sym "a" 44]],
  .list [.sym "defn" 46, .sym "number?" 46, .list [.sym "x" 46],
    .list [.sym "native" 47, .str "is_number(x)", .sym "x" 47]],
  .list [.sym "defn" 49, .sym "string?" 49, .list [.sym "x" 49],
    .list [.sym "native" 50, .str "is_string(x)", .sym "x" 50]],
  .list [.sym "defn" 52, .sym "list?" 52, .list [.sym "x" 52],
    .list [.sym "native" 53, .str "is_list(x)", .sym "x" 53]]]

/-- All forms of the prelude. -/
def forms : List Term :=
  macroForms ++ (functionForms ++ hostForms)

/-- The macros that are added. -/
def macroNames : List String :=
  ["def", "fn", "defun"]

/-- A function that is defined, with what its expansion takes. -/
structure Definition where
  name : String
  /-- The choices in its body. -/
  choices : Nat
  /-- The functions that are made. -/
  functions : Nat

def functionDefinitions : List Definition := [
  ⟨"not", 1, 3⟩, ⟨"or", 2, 4⟩, ⟨"and", 2, 4⟩, ⟨"<=", 0, 2⟩, ⟨">", 0, 2⟩, ⟨">=", 0, 2⟩,
  ⟨"!=", 0, 2⟩, ⟨"strlen", 0, 2⟩]

def hostDefinitions : List Definition := [
  ⟨"mod", 0, 3⟩, ⟨"abs", 0, 3⟩, ⟨"number?", 0, 3⟩, ⟨"string?", 0, 3⟩, ⟨"list?", 0, 3⟩]

/-- All functions that are defined. -/
def definitions : List Definition :=
  functionDefinitions ++ hostDefinitions

/-- What definitions take together. -/
def total (amount : Definition → Nat) (ds : List Definition) : Nat :=
  ds.foldr (fun d sum => amount d + sum) 0

theorem total_cons (amount : Definition → Nat) (d : Definition) (ds : List Definition) :
    total amount (d :: ds) = amount d + total amount ds :=
  rfl

/-- All names that the prelude gives a meaning to. -/
def names : List String :=
  macroNames ++ definitions.map Definition.name

/-! ## Reading it -/

mutual

/-- Whether two terms are the same data. Numbers count as different, since
    their equality is not that of terms. -/
def same : Term → Term → Bool
  | .bool a, .bool b => a == b
  | .nil, .nil => true
  | .str a, .str b => a == b
  | .sym a l, .sym b m => a == b && l == m
  | .list as, .list bs => sameAll as bs
  | _, _ => false

/-- Whether two lists hold the same data. -/
def sameAll : List Term → List Term → Bool
  | [], [] => true
  | a :: as, b :: bs => same a b && sameAll as bs
  | _, _ => false

end

mutual

theorem eq_of_same {a b : Term} (h : same a b = true) : a = b := by
  cases a with
  | bool | nil | str | sym => cases b <;> simp_all [same]
  | list as =>
    cases b with
    | list bs => rw [eq_of_sameAll h]
    | bool | nil | str | num | sym | function => simp [same] at h
  | num | function => cases b <;> simp [same] at h

theorem eq_of_sameAll {as bs : List Term} (h : sameAll as bs = true) : as = bs := by
  cases as with
  | nil =>
    cases bs with
    | nil => rfl
    | cons _ _ => simp [sameAll] at h
  | cons a as =>
    cases bs with
    | nil => simp [sameAll] at h
    | cons b bs =>
      rw [sameAll, Bool.and_eq_true] at h
      rw [eq_of_same h.1, eq_of_sameAll h.2]

end

/-- Whether a reading yields the given forms. -/
def reads (forms : List Term) : Except Stop (List Term) → Bool
  | .ok forms' => sameAll forms' forms
  | .error _ => false

theorem eq_ok_of_reads {forms : List Term} {x : Except Stop (List Term)}
    (h : reads forms x = true) : x = .ok forms := by
  cases x with
  | ok forms' => rw [eq_of_sameAll h]
  | error e => cases h

/-- A text in three pieces, read from its characters. -/
theorem parseWithin_append (room : Nat) (a b c : List Char) :
    Term.parseWithin room (String.ofList a ++ String.ofList b ++ String.ofList c) =
      (do
        let tokens ← (Token.scanFrom 1 (a ++ b ++ c)).mapError fun e => .error (.read e)
        Term.ofTokensWithin room tokens) := by
  simp [Term.parseWithin, Token.scan]

set_option maxRecDepth 20000 in
theorem parseWithin_standard_four :
    Term.parseWithin 4 standard = .ok forms := by
  -- The terms are compared by a function: numbers have no decidable equality.
  refine (parseWithin_append 4 _ _ _).trans (eq_ok_of_reads ?_)
  decide +kernel

/-- Four levels are enough to read the prelude. -/
theorem parseWithin_standard {room : Nat} (h : 4 ≤ room) :
    Term.parseWithin room standard = .ok forms := by
  have hfour := parseWithin_standard_four
  have hlevels : (Limits.mk 4 0).depth ≤ (Limits.mk room 0).depth := h
  rcases parseWithin_eq_or_exhausted hlevels standard with hout | hsame
  · rw [hfour] at hout
    cases hout
  · exact hsame.trans hfour

/-! ## Expanding it -/

/-- The macros that there are once the prelude is expanded. -/
def macros : MacroTable :=
  ((MacroTable.special.add ⟨"def", .special .define⟩).add ⟨"fn", .special .lambda⟩).add
    ⟨"defun", .template "defun" ["name", "vars", "body"]
      [.sym "list" 7, .list [.sym "quote" 7, .sym "define" 7], .sym "name" 7,
        .list [.sym "list" 8, .list [.sym "quote" 8, .sym "lambda" 8], .sym "vars" 9,
          .sym "body" 10]]⟩

theorem get?_macros {key : String} (h : key ∉ macroNames) :
    macros.get? key = MacroTable.special.get? key := by
  simp only [macroNames, List.mem_cons, List.not_mem_nil, or_false, not_or] at h
  simp only [macros, MacroTable.add, Bindings.get?_set]
  simp [h]

/-- The name that an expanded definition of a function binds. -/
def definedName? : Term → Option String
  | .list [.function _ (.define name), .list [.function _ (.makeClosure _ _ _ _ _ _)]] =>
      some name
  | _ => none

section Expand

variable {turns n : Nat} {s s' : State}

/-- The special forms mean what they always mean. -/
theorem get?_macros_special (hmacros : s.macros = macros) {form : SpecialForm}
    (hform : form.name ∉ macroNames) :
    s.macros.get? form.name = some ⟨form.name, .special form⟩ := by
  rw [hmacros, get?_macros hform, MacroTable.get?_special]

/-- The expansion of a function with one form in its body, once that form is
    expanded. -/
theorem expand_namedLambda [Host.Platform] (hmacros : s.macros = macros) {parameters : List Term}
    {names : List String} (hnames : Term.symbolNames? parameters = some names)
    (hsplit : Expansion.splitParameters names = .ok (names, none)) {body body' : Term}
    (hbody : body ≠ .nil) (hbody' : body' ≠ .nil)
    (h : (passes turns n).expand body rootScope s = .ok body' s') (name : String) (line : Nat) :
    ∃ u, (passes turns (n + 3)).expand (.list [.sym SpecialForm.namedLambda.name line,
        .sym name line, .list parameters, body]) rootScope s =
      .ok u { s' with functions := s'.functions + 2 } ∧ definedName? u = some name := by
  have hbodies : (passes turns n).expandBody [body] rootScope s = .ok [body'] s' := by
    have hall : (passes turns n).expandAll [body] rootScope s = .ok [body'] s' := by
      unfold Passes.expandAll
      rw [List.mapM_cons, Action.bind_ok h]
      rfl
    unfold Passes.expandBody
    rw [Action.bind_ok hall, Template.filter_of_ne_nil (by simpa using hbody')]
    rfl
  have hlambda : (passes turns (n + 1)).expand (.list [.sym SpecialForm.lambda.name line,
        .str name, .list parameters, body]) rootScope s =
      .ok (.list [.function ⟨s'.functions, none, none, 0⟩ (.makeClosure names none [body'] name none
        ((parameters.head?.map Term.line).getD 0))]) { s' with functions := s'.functions + 1 } := by
    rw [Template.expand_macro_call turns (get?_macros_special hmacros (by decide))
      (by simpa using hbody)]
    show Expansion.lambda (passes turns n) [.str name, .list parameters, body] rootScope s = _
    simp only [Expansion.lambda, Expansion.takeText, hnames, hsplit]
    rw [Action.bind_ok hbodies]
    rfl
  have hdefine : (passes turns (n + 3)).expand (.list [.sym SpecialForm.namedLambda.name line,
        .sym name line, .list parameters, body]) rootScope s =
      (passes turns (n + 2)).expand (.list [.sym SpecialForm.define.name line, .sym name line,
        .list [.sym SpecialForm.lambda.name line, .str name, .list parameters, body]])
          rootScope s :=
    Template.expand_macro_call turns (get?_macros_special hmacros (by decide))
      (by simpa using hbody) (n + 2) line
  rw [hdefine, Template.expand_macro_call turns (get?_macros_special hmacros (by decide))
    (by simp)]
  exact ⟨_, Action.bind_ok hlambda, rfl⟩

/-- The expansion of a host expression that is well formed. -/
theorem expand_host [Host.Platform]
    (hmacros : s.macros = macros) {declared : List Term} {names : List String}
    (hnames : Term.symbolNames? declared = some names) (hdeclared : ∀ t ∈ declared, t ≠ .nil)
    {source : String} (hsource : (Expansion.hostProgramWithin 2 source names).isOk = true)
    (line : Nat) :
    ∃ u, u ≠ .nil ∧ (passes turns (n + 3)).expand (.list (.sym SpecialForm.host.name line ::
        .str source :: declared)) rootScope s =
      .ok u { s with functions := s.functions + 1 } := by
  obtain ⟨program, hprogram⟩ : ∃ program,
      Expansion.hostProgramWithin (n + 2) source names = .ok program := by
    rcases extends_hostProgramWithin (Nat.le_add_left 2 n) source names with hout | ⟨hsame, -⟩
    · rw [hout] at hsource
      cases hsource
    · rw [hsame]
      cases hprogram : Expansion.hostProgramWithin 2 source names with
      | ok program => exact ⟨program, rfl⟩
      | error stop =>
        rw [hprogram] at hsource
        cases hsource
  have hroom : (passes turns (n + 2)).room = n + 2 := room_passes turns (n + 2)
  rw [Template.expand_macro_call turns (get?_macros_special hmacros (by decide))
    (by simpa using hdeclared)]
  refine ⟨.list [.function ⟨s.functions, none, some source, 0⟩ (.host program)], by simp, ?_⟩
  show Expansion.host (passes turns (n + 2)) (.str source :: declared) s = _
  simp only [Expansion.host, hnames, hroom, hprogram]
  rfl

end Expand

/-! ## Its expansion -/

/-- The form is expanded to the definition of a function. -/
def Defines [Host.Platform] (form : Term) (d : Definition) : Prop :=
  ∀ turns depth (s : State), s.macros = macros →
    ∃ u, (passes turns (depth + 6)).expand form rootScope s =
      .ok u { s with
        branches := s.branches + d.choices, functions := s.functions + d.functions } ∧
      definedName? u = some d.name

theorem defines_functionForms [Host.Platform] :
    List.Forall₂ Defines functionForms functionDefinitions := by
  unfold functionForms functionDefinitions
  refine .cons ?_ (.cons ?_ (.cons ?_ (.cons ?_ (.cons ?_ (.cons ?_ (.cons ?_ (.cons ?_ .nil)))))))
  -- Six levels are enough for each form, whatever room is left below them.
  all_goals
    rintro turns depth ⟨scopes, _, console, branches, lambdas, functions⟩ rfl
    exact ⟨_, rfl, rfl⟩

section Sources

variable {source : String} {names : List String}

/-- Two levels of room are enough for what passes its check in them. -/
theorem isOk_hostProgramWithin [Host.Platform] {body : Host.Expr}
    (hparse : Host.Expr.parse? source = some body)
    (hcheck : body.checkWithin names 2 = .ok ()) :
    (Expansion.hostProgramWithin 2 source names).isOk = true := by
  unfold Expansion.hostProgramWithin Expansion.checkedHost Expansion.hostBody
  rw [hparse]
  simp only [Except.mapError, bind, Except.bind, hcheck]
  rfl

/-- The call of a helper on a variable passes its check, since both have plain
    names. -/
theorem isOk_helperCall [Host.Platform] (h : Host.Helper) (name : String) (hname : name ∈ names)
    (hplain : ∀ c ∈ name.toList, c.toNat < 128)
    (hparse : Host.Expr.parse? source = some (.call (.name (Host.Platform.nameForm h.name))
      [.name (Host.Platform.nameForm name)] [])) :
    (Expansion.hostProgramWithin 2 source names).isOk = true := by
  have hhelper : ∀ c ∈ h.name.toList, c.toNat < 128 := by
    cases h <;> simp [Host.Helper.name]
  rw [Host.Platform.nameForm_plain name hplain, Host.Platform.nameForm_plain h.name hhelper]
    at hparse
  have hknown : (Host.Helper.ofName? h.name).isSome := by
    rw [Host.Helper.ofName?_name]
    rfl
  have hvariable : Host.Expr.checkWithin names 1 (.name name) = .ok () := by
    simp [Host.Expr.checkWithin, hname]
  have hcheck : Host.Expr.checkAll names 1 [.name name] = .ok () := by
    rw [Host.Expr.checkAll, hvariable]
    rfl
  exact isOk_hostProgramWithin hparse (by rw [Host.Expr.checkWithin, if_pos hknown, hcheck])

end Sources

theorem defines_hostForms [Host.Platform] : List.Forall₂ Defines hostForms hostDefinitions := by
  -- Host expressions are read with the room that is left, so they are not just computed.
  have hdefines : ∀ (name source : String) (line line' : Nat) (parameters declared : List Term)
      (names : List String), Term.symbolNames? parameters = some names →
      Expansion.splitParameters names = .ok (names, none) →
      Term.symbolNames? declared = some names →
      (∀ t ∈ declared, t ≠ .nil) → (Expansion.hostProgramWithin 2 source names).isOk = true →
      Defines (.list [.sym SpecialForm.namedLambda.name line, .sym name line, .list parameters,
        .list (.sym SpecialForm.host.name line' :: .str source :: declared)]) ⟨name, 0, 3⟩ := by
    intro name source line line' parameters declared names hparameters hsplit hdeclared hne
      hsource turns depth s hmacros
    obtain ⟨u, hu, hbody⟩ := expand_host hmacros hdeclared hne hsource line'
    exact expand_namedLambda hmacros hparameters hsplit (by simp) hu hbody name line
  unfold hostForms hostDefinitions
  refine .cons ?_ (.cons ?_ (.cons ?_ (.cons ?_ (.cons ?_ .nil))))
  · refine hdefines "mod" "a % b" 40 41 _ _ _ rfl rfl rfl (by simp) ?_
    have hparse : Host.Expr.parse? "a % b" = some (.binary .mod
        (.name (Host.Platform.nameForm "a")) (.name (Host.Platform.nameForm "b"))) := by cbv
    rw [Host.Platform.nameForm_plain "a" (by simp),
      Host.Platform.nameForm_plain "b" (by simp)] at hparse
    exact isOk_hostProgramWithin hparse rfl
  · exact hdefines "abs" "abs(a)" 43 44 _ _ _ rfl rfl rfl (by simp)
      (isOk_helperCall .abs "a" (by simp) (by simp) (by cbv))
  · exact hdefines "number?" "is_number(x)" 46 47 _ _ _ rfl rfl rfl (by simp)
      (isOk_helperCall .isNumber "x" (by simp) (by simp) (by cbv))
  · exact hdefines "string?" "is_string(x)" 49 50 _ _ _ rfl rfl rfl (by simp)
      (isOk_helperCall .isString "x" (by simp) (by simp) (by cbv))
  · exact hdefines "list?" "is_list(x)" 52 53 _ _ _ rfl rfl rfl (by simp)
      (isOk_helperCall .isList "x" (by simp) (by simp) (by cbv))

theorem expandAll_macroForms [Host.Platform] (turns depth : Nat) {s : State}
    (hmacros : s.macros = MacroTable.special) :
    (passes turns (depth + 6)).expandAll macroForms rootScope s =
      .ok [.nil, .nil, .nil] { s with macros := macros } := by
  obtain ⟨scopes, _, console, branches, lambdas, functions⟩ := s
  cases hmacros
  rfl

theorem expandAll_of_defines [Host.Platform]
    (turns depth : Nat) {forms : List Term} {ds : List Definition}
    (h : List.Forall₂ Defines forms ds) {s : State} (hmacros : s.macros = macros) :
    ∃ us, (passes turns (depth + 6)).expandAll forms rootScope s =
      .ok us { s with
        branches := s.branches + total Definition.choices ds
        functions := s.functions + total Definition.functions ds } ∧
      us.map definedName? = ds.map fun d => some d.name := by
  induction h generalizing s with
  | nil => exact ⟨[], rfl, rfl⟩
  | @cons form d forms ds hform _ ih =>
    obtain ⟨u, hu, hname⟩ := hform turns depth s hmacros
    obtain ⟨us, hus, hnames⟩ := ih (s := { s with
      branches := s.branches + d.choices, functions := s.functions + d.functions }) hmacros
    refine ⟨u :: us, ?_, by rw [List.map_cons, List.map_cons, hname, hnames]⟩
    unfold Passes.expandAll at hus ⊢
    rw [List.mapM_cons, Action.bind_ok hu, Action.bind_ok hus]
    simp only [total_cons, ← Nat.add_assoc]
    rfl

/-- The state after its expansion, which takes five numbers of choices and
    makes as many functions as the definitions say. -/
def expandedFrom (s : State) : State :=
  { s with
    macros := macros
    branches := s.branches + 5
    functions := s.functions + total Definition.functions definitions }

theorem expandAll_standard [Host.Platform] (turns depth : Nat) {s : State}
    (hmacros : s.macros = MacroTable.special) :
    ∃ us, (passes turns (depth + 6)).expandAll forms rootScope s =
        .ok ([.nil, .nil, .nil] ++ us) (expandedFrom s) ∧
      us.map definedName? = definitions.map fun d => some d.name := by
  have hdefines : List.Forall₂ Defines (functionForms ++ hostForms) definitions :=
    List.rel_append defines_functionForms defines_hostForms
  obtain ⟨us, hus, hnames⟩ := expandAll_of_defines turns depth hdefines (s := { s with macros }) rfl
  refine ⟨us, ?_, hnames⟩
  have hmacroForms := expandAll_macroForms turns depth hmacros
  unfold Passes.expandAll at hus hmacroForms ⊢
  rw [forms, List.mapM_append, Action.bind_ok hmacroForms, Action.bind_ok hus]
  rfl

/-- What the definitions are expanded to binds the names of the prelude. -/
theorem exists_definedName {us : List Term}
    (h : us.map definedName? = definitions.map fun d => some d.name) {u : Term} (hu : u ∈ us) :
    ∃ name ∈ names, definedName? u = some name := by
  have hmem : definedName? u ∈ us.map definedName? := List.mem_map_of_mem hu
  rw [h] at hmem
  obtain ⟨d, hd, hname⟩ := List.mem_map.1 hmem
  exact ⟨d.name, List.mem_append_right _ (List.mem_map_of_mem hd), hname.symm⟩

/-! ## Its evaluation -/

/-- The second state is the first one after functions were made and bound to
    some of the names. -/
structure Bound (names : List String) (made : Nat) (s s' : State) : Prop where
  size : s'.scopes.size = s.scopes.size
  enclosing : ∀ id, s'.scopes.enclosing id = s.scopes.enclosing id
  others : ∀ id key, key ∉ names →
    (s'.scopes.bindingsOf id).get? key = (s.scopes.bindingsOf id).get? key
  macros : s'.macros = s.macros
  console : s'.console = s.console
  branches : s'.branches = s.branches
  lambdas : s'.lambdas = s.lambdas
  functions : s'.functions = s.functions + made

theorem Bound.refl (names : List String) (s : State) : Bound names 0 s s where
  size := rfl
  enclosing _ := rfl
  others _ _ _ := rfl
  macros := rfl
  console := rfl
  branches := rfl
  lambdas := rfl
  functions := rfl

theorem Bound.define {names : List String} {made : Nat} {s s' : State} (h : Bound names made s s')
    {name : String} (hname : name ∈ names) (scope : ScopeId) (value : Term) :
    Bound names (made + 1) s { s' with
      scopes := s'.scopes.define scope name value, functions := s'.functions + 1 } where
  __ := h
  size := by simpa using h.size
  enclosing id := by simpa using h.enclosing id
  others id key hkey := by
    have hne : name ≠ key := fun heq => hkey (heq ▸ hname)
    dsimp only
    rw [Scopes.get?_define_eq, if_neg fun hself => hne hself.2.2.symm]
    exact h.others id key hkey
  functions := congrArg (· + 1) h.functions

/-- Evaluating a definition makes one function and binds it. -/
theorem evaluate_definition [Host.Platform] (turns depth : Nat) {u : Term} {name : String}
    (h : definedName? u = some name) (scope : ScopeId) (s : State) :
    ∃ v, (passes turns (depth + 3)).evaluate u scope s = .ok v { s with
      scopes := s.scopes.define scope name v, functions := s.functions + 1 } := by
  unfold definedName? at h
  split at h
  · cases h
    exact ⟨_, rfl⟩
  · cases h

/-- Evaluating definitions before other forms. -/
theorem evaluateBody_definitions [Host.Platform]
    (turns depth : Nat) {names : List String} {us : List Term}
    (h : ∀ u ∈ us, ∃ name ∈ names, definedName? u = some name) (last : Term) (scope : ScopeId)
    {made : Nat} {s s' : State} (hs : Bound names made s s') :
    ∃ last' s'', Bound names (made + us.length) s s'' ∧ ∀ rest,
      (passes turns (depth + 3)).evaluateBody last (us ++ rest) scope s' =
        (passes turns (depth + 3)).evaluateBody last' rest scope s'' := by
  induction us generalizing last made s' with
  | nil => exact ⟨last, s', hs, fun _ => rfl⟩
  | cons u us ih =>
    obtain ⟨⟨name, hname, hu⟩, hothers⟩ := List.forall_mem_cons.1 h
    obtain ⟨v, hv⟩ := evaluate_definition turns depth hu scope s'
    obtain ⟨last', s'', hbound, hrest⟩ := ih hothers v (hs.define hname scope v)
    refine ⟨last', s'', ?_, fun rest => ?_⟩
    · rw [List.length_cons, Nat.add_comm us.length 1, ← Nat.add_assoc]
      exact hbound
    · rw [List.cons_append, Passes.evaluateBody, Action.bind_ok hv]
      exact hrest rest

end Prelude

end MiniLisp

import Mathlib.Data.List.Forall2
import MiniLisp.Action
import MiniLisp.Template

/-! # Terms that are alike

    Two runs of one program may differ in what no answer shows: the lines that
    symbols and functions come from, and the serial numbers that functions get.
    A likeness says how much of that may differ, and which names and special
    forms the terms of the runs may use. Terms that are alike are told apart by
    nothing that a run looks at: they are nested, printed and named alike.

    * **`Likeness`** — how the terms of two runs may differ;
    * **`Term.Like`** and **`Code.Like`** — terms and code that differ so;
    * **`Likeness.SameError`** and **`Likeness.SameStop`** — the errors that
      such runs end in. -/

namespace MiniLisp

/-- How the terms of two runs may differ, and what they may use. -/
structure Likeness where
  /-- The names that may be used. -/
  name : String → Prop
  /-- The special forms that may be used. -/
  form : SpecialForm → Prop
  line : Nat → Nat → Prop
  serial : Nat → Nat → Prop
  /-- Lines are the same, and so are the messages that tell them. -/
  exact : Prop
  line_zero : line 0 0
  line_eq : ∀ {l l'}, exact → line l l' → l' = l
  /-- Serial numbers correspond one to one. -/
  serial_iff : ∀ {a a' b b'}, serial a a' → serial b b' → (a' = b' ↔ a = b)
  /-- The words that expansion itself puts into terms. -/
  written : ∀ f ∈ [SpecialForm.define, .lambda, .quote], name f.name
  written_list : name Builtin.list.name

/-- Nothing differs, and everything may be used. -/
def Likeness.same : Likeness where
  name _ := True
  form _ := True
  line := Eq
  serial := Eq
  exact := True
  line_zero := rfl
  line_eq _ h := h.symm
  serial_iff := by
    rintro a _ b _ rfl rfl
    exact Iff.rfl
  written _ _ := trivial
  written_list := trivial

variable {L : Likeness}

/-! ## Terms and code -/

/-- What two functions carry besides their code is alike. -/
structure FunctionTag.Like (L : Likeness) (tag tag' : FunctionTag) : Prop where
  serial : L.serial tag.serial tag'.serial
  id : tag'.id = tag.id
  description : tag'.description = tag.description
  line : L.line tag.line tag'.line

mutual

/-- Two terms differ at most as the likeness allows. -/
inductive Term.Like (L : Likeness) : Term → Term → Prop where
  | bool (value : Bool) : Term.Like L (.bool value) (.bool value)
  | nil : Term.Like L .nil .nil
  | str (text : String) : Term.Like L (.str text) (.str text)
  | num (value : Float) : Term.Like L (.num value) (.num value)
  | sym {name : String} {line line' : Nat} (known : L.name name) (lines : L.line line line') :
      Term.Like L (.sym name line) (.sym name line')
  | list {items items' : List Term} (each : List.Forall₂ (Term.Like L) items items') :
      Term.Like L (.list items) (.list items')
  | function {tag tag' : FunctionTag} {code code' : Code} (tags : tag.Like L tag')
      (codes : Code.Like L code code') : Term.Like L (.function tag code) (.function tag' code')

/-- Two functions do the same, up to terms that are alike. -/
inductive Code.Like (L : Likeness) : Code → Code → Prop where
  | builtin (b : Builtin) : Code.Like L (.builtin b) (.builtin b)
  | closure {formals : List String} {rest : Option String} {body body' : List Term}
      {scope : ScopeId} (known : ∀ name ∈ formals ++ rest.toList, L.name name)
      (bodies : List.Forall₂ (Term.Like L) body body') :
      Code.Like L (.closure formals rest body scope) (.closure formals rest body' scope)
  | makeClosure {formals : List String} {rest : Option String} {body body' : List Term}
      {id : String} {description : Option String} {line line' : Nat}
      (known : ∀ name ∈ formals ++ rest.toList, L.name name)
      (bodies : List.Forall₂ (Term.Like L) body body') (lines : L.line line line') :
      Code.Like L (.makeClosure formals rest body id description line)
        (.makeClosure formals rest body' id description line')
  | define {name : String} (known : L.name name) : Code.Like L (.define name) (.define name)
  | assign {name : String} (known : L.name name) : Code.Like L (.assign name) (.assign name)
  | branch {t t' u u' : Term} (thens : Term.Like L t t') (elses : Term.Like L u u') :
      Code.Like L (.branch t u) (.branch t' u')
  | lastValue : Code.Like L .lastValue .lastValue
  | loop {condition condition' : Term} {body body' : List Term}
      (conditions : Term.Like L condition condition')
      (bodies : List.Forall₂ (Term.Like L) body body') :
      Code.Like L (.loop condition body) (.loop condition' body')
  | leaveLoop : Code.Like L .leaveLoop .leaveLoop
  | evaluateValue : Code.Like L .evaluateValue .evaluateValue
  | readText (known : L.form .readText) : Code.Like L .readText .readText
  | guarded {t t' u u' : Term} (tries : Term.Like L t t') (fallbacks : Term.Like L u u') :
      Code.Like L (.guarded t u) (.guarded t' u')
  | throwValue : Code.Like L .throwValue .throwValue
  | host {program : HostProgram} (known : ∀ name ∈ program.names, L.name name) :
      Code.Like L (.host program) (.host program)

end

/-- Two macros rewrite alike. Templates only exist where forms may add them. -/
inductive Expander.Like (L : Likeness) : Expander → Expander → Prop where
  | special {form : SpecialForm} (known : L.form form) :
      Expander.Like L (.special form) (.special form)
  | template {name : String} {parameters : List String} {body body' : List Term}
      (adds : L.form .defineMacro) (known : ∀ name ∈ parameters, L.name name)
      (bodies : List.Forall₂ (Term.Like L) body body') :
      Expander.Like L (.template name parameters body) (.template name parameters body')

/-- Two macros rewrite alike, whatever their names. -/
def Macro.Like (L : Likeness) (m m' : Macro) : Prop :=
  Expander.Like L m.expander m'.expander

/-! ## What terms that are alike share -/

namespace Term.Like

variable {t t' : Term}

theorem isNil_eq (h : t.Like L t') : t'.isNil = t.isNil := by
  cases h <;> rfl

theorem kind_eq (h : t.Like L t') : t'.kind = t.kind := by
  cases h <;> rfl

theorem line (h : t.Like L t') : L.line t.line t'.line := by
  cases h with
  | sym _ lines => exact lines
  | function tags _ => exact tags.line
  | bool | nil | str | num | list => exact L.line_zero

theorem symbolName?_eq (h : t.Like L t') : t'.symbolName? = t.symbolName? := by
  cases h <;> rfl

theorem isSymbol_eq (h : t.Like L t') (name : String) : t'.isSymbol name = t.isSymbol name := by
  rw [isSymbol, isSymbol, h.symbolName?_eq]

mutual

theorem depth_eq {t t' : Term} (h : t.Like L t') : t'.depth = t.depth := by
  cases h with
  | list each => simp only [Term.depth, depthList_eq each]
  | bool | nil | str | num | sym | function => rfl

theorem depthList_eq {ts ts' : List Term} (h : List.Forall₂ (Term.Like L) ts ts') :
    Term.depthList ts' = Term.depthList ts := by
  cases h with
  | nil => rfl
  | cons first others => simp only [Term.depthList, depth_eq first, depthList_eq others]

end

mutual

theorem print_eq {t t' : Term} (h : t.Like L t') : t'.print = t.print := by
  cases h with
  | list each => simp only [Term.print, printEach_eq each]
  | function tags _ => simp only [Term.print, FunctionTag.text, tags.id]
  | bool | nil | str | num | sym => rfl

theorem printEach_eq {ts ts' : List Term} (h : List.Forall₂ (Term.Like L) ts ts') :
    Term.printEach ts' = Term.printEach ts := by
  cases h with
  | nil => rfl
  | cons first others => simp only [Term.printEach, print_eq first, printEach_eq others]

end

theorem display_eq (h : t.Like L t') : t'.display = t.display := by
  have hprint := h.print_eq
  cases h with
  | str => rfl
  | bool | nil | num | sym | list | function => exact hprint

theorem ofName {name : String} (known : L.name name) :
    (Term.ofName name).Like L (Term.ofName name) :=
  .sym known L.line_zero

theorem quoted (h : t.Like L t') : t.quoted.Like L t'.quoted :=
  .list (.cons (ofName (L.written .quote (by simp))) (.cons h .nil))

end Term.Like

/-! ### Terms in a row -/

section Rows

variable {ts ts' : List Term}

/-- Nil is dropped from both rows at the same places. -/
theorem alike_filter (h : List.Forall₂ (Term.Like L) ts ts') :
    List.Forall₂ (Term.Like L) (ts.filter fun t => !t.isNil) (ts'.filter fun t => !t.isNil) :=
  List.rel_filter (fun _ _ ht => by simp [ht.isNil_eq]) h

theorem symbolNames?_eq (h : List.Forall₂ (Term.Like L) ts ts') :
    Term.symbolNames? ts' = Term.symbolNames? ts := by
  induction h with
  | nil => rfl
  | cons first _ ih =>
    simp only [Term.symbolNames?] at ih
    simp only [Term.symbolNames?, List.mapM_cons, first.symbolName?_eq, ih]

/-- The names of symbols that are alike may be used. -/
theorem known_of_symbolNames? (h : List.Forall₂ (Term.Like L) ts ts') {names : List String}
    (hnames : Term.symbolNames? ts = some names) : ∀ name ∈ names, L.name name := by
  induction h generalizing names with
  | nil =>
    cases hnames
    simp
  | cons first _ ih =>
    cases first with
    | sym known _ =>
      simp only [Term.symbolNames?, List.mapM_cons, Term.symbolName?] at hnames
      obtain ⟨_, hfirst, hrest⟩ := Option.bind_eq_some_iff.1 hnames
      cases hfirst
      obtain ⟨others, hothers, hnames⟩ := Option.bind_eq_some_iff.1 hrest
      cases hnames
      exact List.forall_mem_cons.2 ⟨known, ih hothers⟩
    | bool | nil | str | num | list | function =>
      simp [Term.symbolNames?, Term.symbolName?] at hnames

end Rows

/-! ## How runs that are alike end -/

namespace Likeness

/-- Two errors are of the same class, and are the same where lines are. -/
structure SameError (L : Likeness) (e e' : LispError) : Prop where
  kind : e'.kind = e.kind
  eq : L.exact → e' = e

theorem SameError.refl (L : Likeness) (e : LispError) : L.SameError e e :=
  ⟨rfl, fun _ => rfl⟩

/-- Errors that only tell a line are the same error up to that line. -/
theorem SameError.ofLine (make : Nat → LispError) (hmake : ∀ l l', (make l').kind = (make l).kind)
    {l l' : Nat} (h : L.line l l') : L.SameError (make l) (make l') :=
  ⟨hmake l l', fun hexact => by rw [L.line_eq hexact h]⟩

/-- Two runs stop for the same reason. -/
inductive SameStop (L : Likeness) : Stop → Stop → Prop where
  | error {e e' : LispError} (causes : L.SameError e e') : SameStop L (.error e) (.error e')
  | limit {stop : Stop} (noError : ∀ e, stop ≠ .error e) : SameStop L stop stop

theorem SameStop.refl (L : Likeness) (stop : Stop) : L.SameStop stop stop := by
  cases stop with
  | error e => exact .error (.refl L e)
  | exhausted | overflow | memory | unfinished => exact .limit (by simp)

theorem SameStop.eq {stop stop' : Stop} (h : L.SameStop stop stop') (hexact : L.exact) :
    stop' = stop := by
  cases h with
  | error causes => rw [causes.eq hexact]
  | limit _ => rfl

end Likeness

end MiniLisp

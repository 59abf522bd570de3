import MiniLisp.Proofs.Likeness
import MiniLisp.Proofs.Mentions
import MiniLisp.Session

/-! # Terms that are read

    A text spells data only: functions come into being when terms are expanded
    and evaluated. So two runs that begin with the same text begin with terms
    that are alike, if they use no names but those that a likeness knows.

    * **`Term.IsData`** — terms without functions;
    * **`Term.LeavesOut`** — terms in which names do not occur;
    * **`isData_of_parseWithin`** — what is read is data;
    * **`Session.start_cases`** — what a session starts with. -/

namespace MiniLisp

/-- A term without functions. -/
inductive Term.IsData : Term → Prop where
  | bool (value : Bool) : IsData (.bool value)
  | nil : IsData .nil
  | str (text : String) : IsData (.str text)
  | num (value : Float) : IsData (.num value)
  | sym (name : String) (line : Nat) : IsData (.sym name line)
  | list {items : List Term} (each : ∀ t ∈ items, t.IsData) : IsData (.list items)

theorem Term.isData_list {items : List Term} :
    (Term.list items).IsData ↔ ∀ t ∈ items, t.IsData := by
  constructor
  · intro h
    cases h with
    | list each => exact each
  · exact .list

/-- The names do not occur as symbols in the term. -/
def Term.LeavesOut (names : List String) (t : Term) : Prop :=
  ∀ name ∈ names, Mention.name name ∉ t.mentions

instance (names : List String) (t : Term) : Decidable (t.LeavesOut names) :=
  inferInstanceAs (Decidable (∀ name ∈ names, Mention.name name ∉ t.mentions))

theorem Term.leavesOut_sym {names : List String} {name : String} {line : Nat} :
    (Term.sym name line).LeavesOut names ↔ name ∉ names := by
  simp only [LeavesOut, mentions, List.mem_singleton, Mention.name.injEq]
  constructor
  · intro h hname
    exact h name hname rfl
  · rintro h key hkey rfl
    exact h hkey

theorem Term.leavesOut_list {names : List String} {items : List Term} :
    (Term.list items).LeavesOut names ↔ ∀ t ∈ items, t.LeavesOut names := by
  simp only [LeavesOut, mentions, mem_mentionsAll, not_exists, not_and]
  constructor
  · intro h t ht name hname
    exact h name hname t ht
  · intro h name hname t ht
    exact h t ht name hname

theorem Term.LeavesOut.within {names : List String} {t : Term} (h : t.LeavesOut names)
    {allowed : Mention → Prop} (hothers : ∀ name, name ∉ names → allowed (.name name))
    (hscopes : ∀ id, allowed (.scope id)) : t.Within allowed := by
  intro m hm
  cases m with
  | name name => exact hothers name fun hname => h name hname hm
  | scope id => exact hscopes id

/-! ## Data and likenesses -/

section Likeness

variable {L : Likeness}

/-- Data is like itself where lines are. -/
theorem Term.IsData.like_self (hline : ∀ l, L.line l l) {t : Term} (h : t.IsData)
    (hwithin : t.Within fun m => ∀ name, m = .name name → L.name name) : t.Like L t := by
  induction h with
  | bool value => exact .bool value
  | nil => exact .nil
  | str text => exact .str text
  | num value => exact .num value
  | sym name line => exact .sym (Term.within_sym.1 hwithin name rfl) (hline line)
  | list each ih =>
    refine .list (List.forall₂_same.2 fun t ht => ?_)
    exact ih t ht (Term.within_list.1 hwithin t ht)

/-- Forms that are data and leave out all names that a likeness does not know
    are like themselves. -/
theorem alike_self_of_leavesOut {names : List String} (hline : ∀ l, L.line l l)
    (hnames : ∀ name, name ∉ names → L.name name) {forms : List Term}
    (hdata : ∀ t ∈ forms, t.IsData) (hforms : ∀ t ∈ forms, t.LeavesOut names) :
    List.Forall₂ (Term.Like L) forms forms := by
  refine List.forall₂_same.2 fun t ht => (hdata t ht).like_self hline ?_
  refine (hforms t ht).within ?_ ?_
  · rintro name hname key ⟨⟩
    exact hnames name hname
  · rintro id key ⟨⟩

end Likeness

/-! ## Reading -/

theorem isData_ofAtom (t : Token) : (Draft.ofAtom t).IsData := by
  unfold Draft.ofAtom
  dsimp only
  split
  · exact .num _
  · exact .str _
  · exact .bool _
  · exact .sym _ _
  · exact .nil

theorem Reads.isData {depth : Nat} {tokens rest : List Token} {forms : List Term}
    (h : Reads depth tokens forms rest) : ∀ form ∈ forms, form.IsData := by
  induction h with
  | nothing => exact List.forall_mem_nil _
  | atom _ _ ih => exact List.forall_mem_cons.2 ⟨isData_ofAtom _, ih⟩
  | list _ _ _ _ hitems hforms => exact List.forall_mem_cons.2 ⟨.list hitems, hforms⟩
  | marked _ _ ih =>
    obtain ⟨hform, hforms⟩ := List.forall_mem_cons.1 ih
    refine List.forall_mem_cons.2 ⟨.list ?_, hforms⟩
    exact List.forall_mem_cons.2 ⟨.sym _ _, List.forall_mem_singleton.2 hform⟩
  | stray _ _ ih => exact ih

theorem Term.parseWithin_of_scan (room : Nat) {text : String} {tokens : List Token}
    (h : Token.scan text = .ok tokens) :
    Term.parseWithin room text = Term.ofTokensWithin room tokens := by
  simp only [Term.parseWithin, h]
  rfl

theorem Term.parse_of_parseWithin {room : Nat} {text : String} {forms : List Term}
    (h : Term.parseWithin room text = .ok forms) : Term.parse text = .ok forms := by
  cases hscan : Token.scan text with
  | error e =>
    simp only [Term.parseWithin, hscan] at h
    cases h
  | ok tokens =>
    have hread : Term.ofTokensWithin room tokens = .ok forms :=
      (Term.parseWithin_of_scan room hscan).symm.trans h
    have hparse : Term.parse text = Term.ofTokens tokens := by
      simp only [Term.parse, hscan]
      rfl
    unfold Term.ofTokensWithin at hread
    split at hread
    · rw [hparse]
      cases hforms : Term.ofTokens tokens with
      | error e =>
        rw [hforms] at hread
        cases hread
      | ok forms' =>
        rw [hforms] at hread
        cases hread
        rfl
    · cases hread

theorem isData_of_parseWithin {room : Nat} {text : String} {forms : List Term}
    (h : Term.parseWithin room text = .ok forms) : ∀ form ∈ forms, form.IsData := by
  obtain ⟨tokens, -, hreads⟩ := Term.reads_of_parse (Term.parse_of_parseWithin h)
  exact hreads.isData

/-! ## Sessions -/

/-- A session starts with the forms of a text, or with none. -/
theorem Session.start_cases {l : Limits} {prelude : Option String} {console : Console}
    {started : Session} (h : start l prelude console = .ok started) :
    (prelude = none ∧ started = ⟨[], console, 0, 0⟩) ∨
      ∃ text forms, prelude = some text ∧ Term.parseWithin l.depth text = .ok forms ∧
        started = ⟨forms, console, 0, 0⟩ := by
  cases prelude with
  | none =>
    cases h
    exact .inl ⟨rfl, rfl⟩
  | some text =>
    cases hparse : Term.parseWithin l.depth text with
    | error stop =>
      simp only [start, hparse] at h
      cases h
    | ok forms =>
      simp only [start, hparse] at h
      cases h
      exact .inr ⟨text, forms, rfl, hparse, rfl⟩

theorem Session.isData_of_start {l : Limits} {prelude : Option String} {console : Console}
    {started : Session} (h : start l prelude console = .ok started) :
    ∀ t ∈ started.prelude, t.IsData := by
  rcases start_cases h with ⟨-, rfl⟩ | ⟨text, forms, -, hparse, rfl⟩
  · exact List.forall_mem_nil _
  · exact isData_of_parseWithin hparse

end MiniLisp

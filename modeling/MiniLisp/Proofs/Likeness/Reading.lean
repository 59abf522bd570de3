import MiniLisp.Proofs.Likeness
import MiniLisp.Passes

/-! # Texts that are alike

    Tokens that differ in their lines only spell forms that are alike, or are
    refused for the same reason: no step of reading looks at a line but to hand
    it on.

    * **`Token.Like`** — two tokens that differ in their lines at most;
    * **`SameReading`** — two readings that end alike;
    * **`sameReading_ofTokensWithin`** — what such tokens spell. -/

namespace MiniLisp

variable {L : Likeness}

/-- Two tokens of one kind and text, whose lines may differ as the likeness
    allows. -/
structure Token.Like (L : Likeness) (t t' : Token) : Prop where
  kind : t'.kind = t.kind
  text : t'.text = t.text
  line : L.line t.line t'.line
  known : t.kind = .symbol → L.name (t.text.getD "")

/-! ## The tree of the parentheses -/

/-- Two drafts differ at most as the likeness allows. -/
inductive Draft.Like (L : Likeness) : Draft → Draft → Prop where
  | atom {t t' : Term} (terms : t.Like L t') : Draft.Like L (.atom t) (.atom t')
  | mark (m : QuoteMark) {line line' : Nat} (lines : L.line line line') :
      Draft.Like L (.mark m line) (.mark m line')
  | list {items items' : List Draft} (each : List.Forall₂ (Draft.Like L) items items') :
      Draft.Like L (.list items) (.list items')

namespace Draft

theorem alike_ofAtom {t t' : Token} (h : t.Like L t') :
    (ofAtom t).Like L (ofAtom t') := by
  unfold ofAtom
  extract_lets text text'
  have htext : text' = text := congrArg (·.getD "") h.text
  rw [h.kind, htext]
  split
  · exact .num _
  · exact .str _
  · exact .bool _
  · next hkind => exact .sym (h.known hkind) h.line
  · exact .nil

theorem alike_closeAll {items items' : List Draft} {outer outer' : List (List Draft)}
    (hitems : List.Forall₂ (Like L) items items')
    (houter : List.Forall₂ (List.Forall₂ (Like L)) outer outer') :
    List.Forall₂ (Like L) (closeAll items outer) (closeAll items' outer') := by
  induction houter generalizing items items' with
  | nil => exact List.rel_reverse hitems
  | cons around _ ih => exact ih (.cons (.list (List.rel_reverse hitems)) around)

theorem alike_build {tokens tokens' : List Token} (h : List.Forall₂ (Token.Like L) tokens tokens')
    {items items' : List Draft} {outer outer' : List (List Draft)}
    (hitems : List.Forall₂ (Like L) items items')
    (houter : List.Forall₂ (List.Forall₂ (Like L)) outer outer') :
    List.Forall₂ (Like L) (build items outer tokens) (build items' outer' tokens') := by
  induction h generalizing items items' outer outer' with
  | nil => exact alike_closeAll hitems houter
  | cons first _ ih =>
    unfold build
    rw [first.kind]
    split
    · exact ih .nil (.cons hitems houter)
    · cases houter with
      | nil => exact ih hitems .nil
      | cons around others => exact ih (.cons (.list (List.rel_reverse hitems)) around) others
    · split
      · exact ih (.cons (.mark _ first.line) hitems) houter
      · exact ih (.cons (.atom (alike_ofAtom first)) hitems) houter

theorem nesting_eq {tokens tokens' : List Token}
    (h : List.Forall₂ (Token.Like L) tokens tokens') (now : Nat) :
    nesting now tokens' = nesting now tokens := by
  induction h generalizing now with
  | nil => rfl
  | cons first _ ih =>
    unfold nesting
    rw [first.kind]
    split <;> simp only [ih]

end Draft

/-! ## Joining the marks -/

/-- Two readings end in forms that are alike, or in errors that are the same in
    some sense. -/
inductive SameReading (L : Likeness) {ε : Type} (same : ε → ε → Prop) :
    Except ε (List Term) → Except ε (List Term) → Prop where
  | ok {ts ts' : List Term} (forms : List.Forall₂ (Term.Like L) ts ts') :
      SameReading L same (.ok ts) (.ok ts')
  | error {e e' : ε} (causes : same e e') : SameReading L same (.error e) (.error e')

/-- Two texts are refused for the same reason. -/
def Likeness.SameReadError (L : Likeness) (e e' : ReadError) : Prop :=
  L.SameError (.read e) (.read e')

theorem SameReading.bind {ε : Type} {same : ε → ε → Prop} {x y : Except ε (List Term)}
    (h : SameReading L same x y) {f g : List Term → Except ε (List Term)}
    (hf : ∀ ts ts', List.Forall₂ (Term.Like L) ts ts' → SameReading L same (f ts) (g ts')) :
    SameReading L same (x >>= f) (y >>= g) := by
  cases h with
  | ok forms => exact hf _ _ forms
  | error causes => exact .error causes

mutual

theorem sameReading_join (marks : ∀ m : QuoteMark, L.name m.symbol) {ds ds' : List Draft}
    (h : List.Forall₂ (Draft.Like L) ds ds') :
    SameReading L L.SameReadError (Draft.join ds) (Draft.join ds') := by
  cases h with
  | nil => exact .ok .nil
  | cons first others =>
    unfold Draft.join
    exact (sameReading_join marks others).bind fun _ _ forms => sameReading_place marks first forms

theorem sameReading_place (marks : ∀ m : QuoteMark, L.name m.symbol) {d d' : Draft}
    (hd : d.Like L d') {ts ts' : List Term} (hts : List.Forall₂ (Term.Like L) ts ts') :
    SameReading L L.SameReadError (Draft.place d ts) (Draft.place d' ts') := by
  cases hd with
  | atom terms => exact .ok (.cons terms hts)
  | mark m lines =>
    cases hts with
    | nil => exact .error (.ofLine (fun l => .read (.danglingMark m l)) (fun _ _ => rfl) lines)
    | cons first others =>
      exact .ok (.cons (.list (.cons (.sym (marks m) lines) (.cons first .nil))) others)
  -- The items of a list are joined on their own: no mark reaches across a parenthesis.
  | list each =>
    unfold Draft.place
    exact (sameReading_join marks each).bind fun _ _ forms => .ok (.cons (.list forms) hts)

end

/-- Tokens that are alike spell forms that are alike. -/
theorem sameReading_ofTokens (marks : ∀ m : QuoteMark, L.name m.symbol)
    {tokens tokens' : List Token} (h : List.Forall₂ (Token.Like L) tokens tokens') :
    SameReading L L.SameReadError (Term.ofTokens tokens) (Term.ofTokens tokens') :=
  sameReading_join marks (Draft.alike_build h .nil .nil)

theorem sameReading_ofTokensWithin (marks : ∀ m : QuoteMark, L.name m.symbol) (room : Nat)
    {tokens tokens' : List Token} (h : List.Forall₂ (Token.Like L) tokens tokens') :
    SameReading L L.SameStop (Term.ofTokensWithin room tokens)
      (Term.ofTokensWithin room tokens') := by
  unfold Term.ofTokensWithin
  rw [Draft.nesting_eq h]
  split
  · have hread := sameReading_ofTokens marks h
    generalize Term.ofTokens tokens = x, Term.ofTokens tokens' = y at hread
    cases hread with
    | ok forms => exact .ok forms
    | error causes => exact .error (.error causes)
  · exact .error (.refl L _)

end MiniLisp

import MiniLisp.Passes
import MiniLisp.Proofs.Grammar

/-! # Parentheses that do not balance

    Where parentheses do not balance, there is one way to repair them: a `)`
    that closes nothing is left out, and at the end of the input every list
    that is still open gets a `)` of its own. The reader does not ask for the
    repair, since it reads the same without it. Marks are joined only when all
    lists are built, so it makes no difference to them either.

    * **`withoutStrays`** and **`balance`** — the two halves of the repair;
    * **`Balanced`** — what the repair is for;
    * **`ofTokens_balance`** — what is read before the repair and after it. -/

namespace MiniLisp

/-! ## The repair -/

/-- The tokens without each `)` that closes nothing, `depth` lists being open
    before them. -/
def withoutStrays (depth : Nat) : List Token → List Token
  | [] => []
  | t :: tokens =>
      match t.kind with
      | .openParen => t :: withoutStrays (depth + 1) tokens
      | .closeParen =>
          match depth with
          | 0 => withoutStrays 0 tokens
          | outer + 1 => t :: withoutStrays outer tokens
      | _ => t :: withoutStrays depth tokens

/-- The tokens without each `)` that closes nothing, and with one `)` more for
    each list that is open at their end. -/
def balance (close : Token) (tokens : List Token) : List Token :=
  withoutStrays 0 tokens ++ List.replicate (openLists 0 tokens) close

/-- How many `(` are among the tokens. -/
def openCount (tokens : List Token) : Nat :=
  tokens.countP fun t => t.kind = .openParen

/-- How many `)` are among the tokens. -/
def closeCount (tokens : List Token) : Nat :=
  tokens.countP fun t => t.kind = .closeParen

/-- No `)` comes before the `(` that it closes, and no list is left open. -/
structure Balanced (tokens : List Token) : Prop where
  count_le : ∀ before, before <+: tokens → closeCount before ≤ openCount before
  count_eq : closeCount tokens = openCount tokens

/-! ## The repaired tokens are balanced -/

section Counting

theorem openCount_cons (t : Token) (tokens : List Token) :
    openCount (t :: tokens) = openCount tokens + if t.kind = .openParen then 1 else 0 := by
  simp [openCount, List.countP_cons]

theorem closeCount_cons (t : Token) (tokens : List Token) :
    closeCount (t :: tokens) = closeCount tokens + if t.kind = .closeParen then 1 else 0 := by
  simp [closeCount, List.countP_cons]

theorem openCount_append (before after : List Token) :
    openCount (before ++ after) = openCount before + openCount after :=
  List.countP_append

theorem closeCount_append (before after : List Token) :
    closeCount (before ++ after) = closeCount before + closeCount after :=
  List.countP_append

/-- What the tokens that are left open and close adds up to the lists that are
    open after them. -/
theorem closeCount_withoutStrays (depth : Nat) (tokens : List Token) :
    closeCount (withoutStrays depth tokens) + openLists depth tokens =
      openCount (withoutStrays depth tokens) + depth := by
  induction tokens generalizing depth with
  | nil => simp [withoutStrays, openLists, closeCount, openCount]
  | cons t tokens ih =>
    obtain ⟨kind, text, line⟩ := t
    cases kind with
    | openParen =>
      have hinner := ih (depth + 1)
      simp only [withoutStrays, openLists, closeCount_cons, openCount_cons]
      simp
      omega
    | closeParen =>
      cases depth with
      | zero => exact ih 0
      | succ outer =>
        have hrest := ih outer
        simp only [withoutStrays, openLists, closeCount_cons, openCount_cons]
        simp
        omega
    | _ =>
      have hrest := ih depth
      simpa [withoutStrays, openLists, closeCount_cons, openCount_cons] using hrest

/-- Along the tokens that are left, no more lists are closed than are open. -/
theorem closeCount_le_of_prefix (depth : Nat) (tokens : List Token) {before : List Token}
    (h : before <+: withoutStrays depth tokens) : closeCount before ≤ openCount before + depth := by
  induction tokens generalizing depth before with
  | nil =>
    obtain rfl := List.prefix_nil.1 h
    simp [closeCount]
  | cons t tokens ih =>
    obtain ⟨kind, text, line⟩ := t
    -- A token that is left comes first in every part that is not empty.
    have hfirst : ∀ {inner : Nat}, before <+: ⟨kind, text, line⟩ :: withoutStrays inner tokens →
        before = [] ∨ ∃ others, before = ⟨kind, text, line⟩ :: others ∧
          closeCount others ≤ openCount others + inner := by
      intro inner hbefore
      rcases List.prefix_cons_iff.1 hbefore with rfl | ⟨others, rfl, hothers⟩
      · exact .inl rfl
      · exact .inr ⟨others, rfl, ih inner hothers⟩
    cases kind with
    | openParen =>
      rcases hfirst (show before <+: _ :: withoutStrays (depth + 1) tokens from h) with
        rfl | ⟨others, rfl, hle⟩
      · simp [closeCount]
      · simp [closeCount_cons, openCount_cons]
        omega
    | closeParen =>
      cases depth with
      | zero => exact ih 0 h
      | succ outer =>
        rcases hfirst (show before <+: _ :: withoutStrays outer tokens from h) with
          rfl | ⟨others, rfl, hle⟩
        · simp [closeCount]
        · simp [closeCount_cons, openCount_cons]
          omega
    | _ =>
      rcases hfirst (show before <+: _ :: withoutStrays depth tokens from h) with
        rfl | ⟨others, rfl, hle⟩
      · simp [closeCount]
      · simpa [closeCount_cons, openCount_cons] using hle

theorem closeCount_replicate {close : Token} (hclose : close.kind = .closeParen) (n : Nat) :
    closeCount (List.replicate n close) = n := by
  simp [closeCount, List.countP_replicate, hclose]

theorem openCount_replicate {close : Token} (hclose : close.kind = .closeParen) (n : Nat) :
    openCount (List.replicate n close) = 0 := by
  simp [openCount, List.countP_replicate, hclose]

theorem balanced_balance {close : Token} (hclose : close.kind = .closeParen)
    (tokens : List Token) : Balanced (balance close tokens) := by
  have htotal := closeCount_withoutStrays 0 tokens
  constructor
  · intro before hbefore
    have hfirst : withoutStrays 0 tokens <+: balance close tokens := List.prefix_append _ _
    rcases List.prefix_or_prefix_of_prefix hbefore hfirst with hwithin | ⟨closers, rfl⟩
    · exact closeCount_le_of_prefix 0 tokens hwithin
    · -- All tokens that were left are in the part, and some of the new ones.
      have hclosers := (List.prefix_append_right_inj _).1 hbefore
      obtain ⟨hle, hsame⟩ := List.prefix_replicate_iff.1 hclosers
      rw [closeCount_append, openCount_append, hsame, closeCount_replicate hclose,
        openCount_replicate hclose]
      omega
  · rw [balance, closeCount_append, openCount_append, closeCount_replicate hclose,
      openCount_replicate hclose]
    omega

end Counting

/-! ## Reading goes on -/

namespace Draft

variable {items : List Draft} {outer : List (List Draft)}

/-- A `)` at the end closes a list that the end would close, or closes nothing. -/
theorem build_closers {closers : List Token} (h : ∀ c ∈ closers, c.kind = .closeParen)
    (items : List Draft) (outer : List (List Draft)) :
    build items outer closers = closeAll items outer := by
  induction closers generalizing items outer with
  | nil => rfl
  | cons c closers ih =>
    obtain ⟨hc, hclosers⟩ := List.forall_mem_cons.1 h
    cases outer with
    | nil =>
      rw [build_stray hc]
      exact ih hclosers items []
    | cons around rest =>
      rw [build_close hc]
      exact ih hclosers (.list items.reverse :: around) rest

theorem build_append_closers {closers : List Token} (h : ∀ c ∈ closers, c.kind = .closeParen)
    (tokens : List Token) (items : List Draft) (outer : List (List Draft)) :
    build items outer (tokens ++ closers) = build items outer tokens := by
  obtain ⟨items', outer', -, hbuild⟩ := build_append tokens items outer
  have hwith := hbuild closers
  have hwithout := hbuild []
  rw [List.append_nil] at hwithout
  rw [hwith, hwithout, build_closers h]
  rfl

theorem build_withoutStrays (tokens : List Token) (items : List Draft)
    (outer : List (List Draft)) :
    build items outer (withoutStrays outer.length tokens) = build items outer tokens := by
  induction tokens generalizing items outer with
  | nil => rfl
  | cons t tokens ih =>
    obtain ⟨kind, text, line⟩ := t
    cases kind with
    | openParen => exact ih [] (items :: outer)
    | closeParen =>
      cases outer with
      | nil => exact ih items []
      | cons around rest => exact ih (.list items.reverse :: around) rest
    | _ => exact ih _ outer

/-- Closing lists opens none. -/
theorem nesting_closers {closers : List Token} (h : ∀ c ∈ closers, c.kind = .closeParen)
    (now : Nat) : nesting now closers = now := by
  induction closers generalizing now with
  | nil => rfl
  | cons c closers ih =>
    obtain ⟨hc, hclosers⟩ := List.forall_mem_cons.1 h
    have hrest := ih hclosers (now - 1)
    simp only [nesting, hc, hrest]
    omega

theorem nesting_append_closers {closers : List Token} (h : ∀ c ∈ closers, c.kind = .closeParen)
    (now : Nat) (tokens : List Token) :
    nesting now (tokens ++ closers) = nesting now tokens := by
  have hwith := nesting_append now tokens closers
  have hwithout := nesting_append now tokens []
  rw [List.append_nil, nesting] at hwithout
  rw [hwith, nesting_closers h]
  exact hwithout.symm

theorem nesting_withoutStrays (now : Nat) (tokens : List Token) :
    nesting now (withoutStrays now tokens) = nesting now tokens := by
  induction tokens generalizing now with
  | nil => rfl
  | cons t tokens ih =>
    obtain ⟨kind, text, line⟩ := t
    cases kind with
    | openParen => exact ih (now + 1)
    | closeParen =>
      cases now with
      | zero =>
        have hstray : nesting 0 (⟨.closeParen, text, line⟩ :: tokens) = nesting 0 tokens :=
          Nat.zero_max _
        rw [hstray]
        exact ih 0
      | succ outer => exact congrArg (max (outer + 1)) (ih outer)
    | _ => exact ih now

end Draft

section Reading

variable {tokens tokens' : List Token}

/-- Tokens of the same drafts are read alike. -/
theorem ofTokens_of_drafts (h : Draft.ofTokens tokens' = Draft.ofTokens tokens) :
    Term.ofTokens tokens' = Term.ofTokens tokens := by
  rw [Term.ofTokens, h, Term.ofTokens]

theorem ofTokensWithin_of_nesting (h : Term.ofTokens tokens' = Term.ofTokens tokens)
    (hnesting : Draft.nesting 0 tokens' = Draft.nesting 0 tokens) (room : Nat) :
    Term.ofTokensWithin room tokens' = Term.ofTokensWithin room tokens := by
  rw [Term.ofTokensWithin, h, hnesting, Term.ofTokensWithin]

end Reading

/-- Tokens with any number of further `)` after them are read as they are. -/
theorem ofTokens_append_closers {closers : List Token}
    (h : ∀ c ∈ closers, c.kind = .closeParen) (tokens : List Token) :
    Term.ofTokens (tokens ++ closers) = Term.ofTokens tokens ∧
      ∀ room, Term.ofTokensWithin room (tokens ++ closers) = Term.ofTokensWithin room tokens := by
  have hread : Term.ofTokens (tokens ++ closers) = Term.ofTokens tokens :=
    ofTokens_of_drafts (Draft.build_append_closers h tokens [] [])
  exact ⟨hread, ofTokensWithin_of_nesting hread (Draft.nesting_append_closers h 0 tokens)⟩

theorem ofTokens_withoutStrays (tokens : List Token) :
    Term.ofTokens (withoutStrays 0 tokens) = Term.ofTokens tokens ∧
      ∀ room,
        Term.ofTokensWithin room (withoutStrays 0 tokens) = Term.ofTokensWithin room tokens := by
  have hread : Term.ofTokens (withoutStrays 0 tokens) = Term.ofTokens tokens :=
    ofTokens_of_drafts (Draft.build_withoutStrays tokens [] [])
  exact ⟨hread, ofTokensWithin_of_nesting hread (Draft.nesting_withoutStrays 0 tokens)⟩

/-- The repair balances the parentheses of any sequence of tokens, and it
    changes nothing in what is read: the same forms or the same error, in any
    room. Neither does any number of further `)`. -/
theorem ofTokens_balance {close : Token} (hclose : close.kind = .closeParen)
    (tokens : List Token) :
    Balanced (balance close tokens) ∧
      Term.ofTokens (balance close tokens) = Term.ofTokens tokens ∧
      (∀ room, Term.ofTokensWithin room (balance close tokens) =
        Term.ofTokensWithin room tokens) ∧
      ∀ closers : List Token, (∀ c ∈ closers, c.kind = .closeParen) →
        Term.ofTokens (tokens ++ closers) = Term.ofTokens tokens ∧
          ∀ room, Term.ofTokensWithin room (tokens ++ closers) =
            Term.ofTokensWithin room tokens := by
  have hnew : ∀ c ∈ List.replicate (openLists 0 tokens) close, c.kind = .closeParen := by
    intro c hc
    rw [List.eq_of_mem_replicate hc]
    exact hclose
  obtain ⟨hstrays, hstraysWithin⟩ := ofTokens_withoutStrays tokens
  obtain ⟨hclosers, hclosersWithin⟩ := ofTokens_append_closers hnew (withoutStrays 0 tokens)
  refine ⟨balanced_balance hclose tokens, hclosers.trans hstrays, ?_, ?_⟩
  · intro room
    exact (hclosersWithin room).trans (hstraysWithin room)
  · intro closers h
    exact ofTokens_append_closers h tokens

/-- A `)` between a mark and its list is left out, and the list, whose own last
    item is a mark without a form, is closed. Both are refused on line two. -/
theorem ofTokens_balance_marked :
    let tokens : List Token := [⟨.quote, some "'", 1⟩, ⟨.closeParen, some ")", 1⟩,
      ⟨.openParen, some "(", 1⟩, ⟨.symbol, some "a", 2⟩, ⟨.unquote, some ",", 2⟩]
    let close : Token := ⟨.closeParen, some ")", 3⟩
    close.kind = .closeParen ∧
      balance close tokens = [⟨.quote, some "'", 1⟩, ⟨.openParen, some "(", 1⟩,
        ⟨.symbol, some "a", 2⟩, ⟨.unquote, some ",", 2⟩, ⟨.closeParen, some ")", 3⟩] ∧
      Term.ofTokens (balance close tokens) = .error (.danglingMark .unquote 2) ∧
      Term.ofTokens (tokens ++ [close, close]) = .error (.danglingMark .unquote 2) := by
  intro tokens close
  have hread : Term.ofTokens tokens = .error (.danglingMark .unquote 2) := rfl
  have hclose : close.kind = .closeParen := rfl
  have hclosers : ∀ c ∈ [close, close], c.kind = .closeParen := by decide
  obtain ⟨-, hbalanced, -, hmore⟩ := ofTokens_balance hclose tokens
  refine ⟨hclose, rfl, hbalanced.trans hread, ?_⟩
  exact (hmore [close, close] hclosers).1.trans hread

end MiniLisp

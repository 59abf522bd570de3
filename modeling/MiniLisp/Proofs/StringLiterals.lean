import MiniLisp.Proofs.JoinedTexts

/-! # String literals

    Every text can be written between double quotes. A backslash and a double
    quote need a backslash in front of them; a line feed and a tab may be
    written as a letter after a backslash, or stand for themselves as all other
    characters do.

    Where a literal ends is found by one walk over it, and what it stands for
    by another one. Both take a backslash together with the character after it,
    so they agree on every spelling of every text.

    * **`WrittenAs`** — the spellings of a text;
    * **`WrittenAs.isBody`**, **`WrittenAs.decodes`** — where a spelling ends,
      and what it stands for;
    * **`scan_literal`** — the token of a literal and the tokens after it. -/

namespace MiniLisp.Token

/-- The second text is a way to write the first one between double quotes. -/
inductive WrittenAs : List Char → List Char → Prop where
  | nil : WrittenAs [] []
  | backslash {value body : List Char} (h : WrittenAs value body) :
      WrittenAs ('\\' :: value) ('\\' :: '\\' :: body)
  | quote {value body : List Char} (h : WrittenAs value body) :
      WrittenAs ('"' :: value) ('\\' :: '"' :: body)
  | lineFeed {value body : List Char} (h : WrittenAs value body) :
      WrittenAs ('\n' :: value) ('\\' :: 'n' :: body)
  | tab {value body : List Char} (h : WrittenAs value body) :
      WrittenAs ('\t' :: value) ('\\' :: 't' :: body)
  /-- Line feeds and tabs are among the characters that may stand for themselves. -/
  | plain {c : Char} {value body : List Char} (hquote : c ≠ '"') (hslash : c ≠ '\\')
      (h : WrittenAs value body) : WrittenAs (c :: value) (c :: body)

theorem exists_writtenAs (value : List Char) : ∃ body, WrittenAs value body := by
  induction value with
  | nil => exact ⟨[], .nil⟩
  | cons c value ih =>
    obtain ⟨body, hbody⟩ := ih
    by_cases hslash : c = '\\'
    · subst hslash
      exact ⟨_, .backslash hbody⟩
    · by_cases hquote : c = '"'
      · subst hquote
        exact ⟨_, .quote hbody⟩
      · exact ⟨_, .plain hquote hslash hbody⟩

variable {value body : List Char}

/-- No quote in a spelling ends the literal, and its last backslash is paired. -/
theorem WrittenAs.isBody (h : WrittenAs value body) : IsBody body := by
  induction h with
  | nil => exact isBody_nil
  | backslash _ ih => exact (isBody_pair '\\').2 ih
  | quote _ ih => exact (isBody_pair '"').2 ih
  | lineFeed _ ih => exact (isBody_pair 'n').2 ih
  | tab _ ih => exact (isBody_pair 't').2 ih
  | plain hquote hslash _ ih => exact (isBody_cons hquote hslash).2 ih

/-- A spelling stands for the text that it was made for. -/
theorem WrittenAs.decodes (h : WrittenAs value body) : Decodes body value := by
  induction h with
  | nil => exact .nil
  | backslash _ ih => exact .escape rfl ih
  | quote _ ih => exact .escape rfl ih
  | lineFeed _ ih => exact .escape rfl ih
  | tab _ ih => exact .escape rfl ih
  | plain _ hslash _ ih => exact .plain hslash ih

/-- A literal is the first token, whatever stands after it. Of its line feeds
    only those count that stand for themselves. -/
theorem scanFrom_literal (h : WrittenAs value body) (line : Nat) (after : List Char) :
    scanFrom line ('"' :: (body ++ '"' :: after)) =
      (scanFrom (line + body.count '\n') after).map
        (⟨.string, some (String.ofList value), line⟩ :: ·) := by
  have hlexeme : IsLexeme ('"' :: (body ++ ['"'])) after .string value :=
    .string after h.isBody h.decodes
  have htext : '"' :: (body ++ '"' :: after) = ('"' :: (body ++ ['"'])) ++ after := by simp
  have hcount : ('"' :: (body ++ ['"'])).count '\n' = body.count '\n' := by simp
  rw [htext, scanFrom_isLexeme hlexeme, hcount]

/-- Every text can be written as a literal. Each of its spellings between double
    quotes, in front of a text that can be cut into tokens, is one string with
    this very value; the tokens of the text come after it, as many lines further
    down as line feeds stand for themselves in the spelling. -/
theorem scan_literal (value : String) :
    (∃ body : String, WrittenAs value.toList body.toList) ∧
      ∀ body : String, WrittenAs value.toList body.toList →
        ∀ (after : String) (tokens : List Token), scan after = .ok tokens →
          scan ("\"" ++ body ++ "\"" ++ after) =
            .ok (⟨.string, some value, 1⟩ ::
              tokens.map (shiftLines (body.toList.count '\n'))) := by
  constructor
  · obtain ⟨body, hbody⟩ := exists_writtenAs value.toList
    refine ⟨String.ofList body, ?_⟩
    rwa [String.toList_ofList]
  · intro body hbody after tokens hafter
    have htext : ("\"" ++ body ++ "\"" ++ after).toList =
        '"' :: (body.toList ++ '"' :: after.toList) := by simp
    have hshifted : scanFrom (1 + body.toList.count '\n') after.toList =
        .ok (tokens.map (shiftLines (body.toList.count '\n'))) := by
      rw [scanFrom_shiftLines]
      rw [scan] at hafter
      rw [hafter]
      rfl
    rw [scan, htext, scanFrom_literal hbody, hshifted, String.ofList_toList]
    rfl

/-- Backslashes before a quote and before a letter, around a line break. -/
theorem scan_literal_backslashes :
    WrittenAs "\\\"\n\\n".toList "\\\\\\\"\n\\\\n".toList ∧
      scan "x" = .ok [⟨.symbol, some "x", 1⟩] ∧
      scan ("\"" ++ "\\\\\\\"\n\\\\n" ++ "\"" ++ "x") =
        .ok [⟨.string, some "\\\"\n\\n", 1⟩, ⟨.symbol, some "x", 2⟩] := by
  have hbody : WrittenAs "\\\"\n\\n".toList "\\\\\\\"\n\\\\n".toList :=
    .backslash (.quote (.plain (by decide) (by decide) (.backslash
      (.plain (by decide) (by decide) .nil))))
  have hafter : scan "x" = .ok [⟨.symbol, some "x", 1⟩] := by decide +kernel
  exact ⟨hbody, hafter, (scan_literal "\\\"\n\\n").2 _ hbody "x" _ hafter⟩

end MiniLisp.Token

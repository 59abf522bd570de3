import Mathlib.Data.List.TakeWhile
import MiniLisp.Session

/-! # The path to the prelude

    A setting lists paths between separators, and entries that are blank do not
    count. The defaults stand in for a setting that is missing or empty, but not
    for one that lists nothing: a text of separators and blanks alone leaves no
    path at all, and a session that looks for its prelude cannot start.

    * **`Text.trim_eq_nil_iff`** — when nothing is left of an entry;
    * **`Settings.ListsNothing`** — a text that is there but lists nothing;
    * **`no_path_iff_listsNothing`** — exactly then there is no path. -/

namespace MiniLisp

/-! ## What is left of a piece -/

namespace Text

/-- Nothing is left of a text without the blanks around it exactly if all of it
    is blank. -/
theorem trim_eq_nil_iff (text : List Char) : trim text = [] ↔ ∀ c ∈ text, isBlank c = true := by
  have hback : trim text = [] ↔ ∀ c ∈ text.dropWhile isBlank, isBlank c = true := by
    simp [trim, List.dropWhile_eq_nil_iff]
  rw [hback]
  constructor
  · intro h c hc
    rw [← List.takeWhile_append_dropWhile (p := isBlank) (l := text)] at hc
    rcases List.mem_append.1 hc with hfront | hrest
    · exact List.mem_takeWhile_imp hfront
    · exact h c hrest
  · intro h c hc
    exact h c ((List.dropWhile_sublist _).subset hc)

end Text

/-! ## The paths of a setting -/

namespace Settings

/-- A text that is not empty and holds nothing but separators and blanks. -/
def ListsNothing (separator : Char) (text : String) : Prop :=
  text ≠ "" ∧ ∀ c ∈ text.toList, c = separator ∨ Text.isBlank c = true

variable {separator : Char} {defaults : List String}

/-- The entries of a text are judged one by one, but together they are the text
    without its separators. -/
theorem paths_some_eq_nil_iff {text : String} (h : text ≠ "") :
    paths (some text) defaults separator = [] ↔ ListsNothing separator text := by
  have hempty : text.isEmpty = false := by simpa using h
  have hentries : paths (some text) defaults separator = [] ↔
      ∀ piece ∈ Text.split separator text.toList, ∀ c ∈ piece, Text.isBlank c = true := by
    simp [paths, hempty, Text.trim_eq_nil_iff]
  have htogether :
      (∀ piece ∈ Text.split separator text.toList, ∀ c ∈ piece, Text.isBlank c = true) ↔
        ∀ c ∈ (Text.split separator text.toList).flatten, Text.isBlank c = true := by
    rw [List.forall_mem_flatten]
  rw [hentries, htogether, Text.flatten_split]
  simp only [List.mem_filter, bne_iff_ne, ListsNothing, ne_eq, h, not_false_eq_true, true_and]
  grind

theorem paths_eq_nil_iff (setting : Option String) (h : defaults ≠ []) :
    paths setting defaults separator = [] ↔
      ∃ text, setting = some text ∧ ListsNothing separator text := by
  cases setting with
  | none => simpa [paths] using h
  | some text =>
    by_cases hempty : text = ""
    · subst hempty
      simpa [paths, ListsNothing] using h
    · rw [paths_some_eq_nil_iff hempty]
      simp

end Settings

/-! ## Sessions that look for their prelude -/

variable {m : Type → Type} [Monad m]

/-- With a path there is a session, whatever its files hold. -/
theorem Session.startFromFiles_of_path {setting : Option String} {installed : String}
    {separator : Char} (l : Limits) (files : Files m) (console : Console)
    (h : Settings.paths setting [installed] separator ≠ []) :
    ∃ p ∈ Settings.paths setting [installed] separator,
      startFromFiles l files setting installed console separator = (do
        let prelude ← Prelude.load? files p
        return some (start l prelude console)) := by
  obtain ⟨p, others, hpaths⟩ := List.exists_cons_of_ne_nil h
  refine ⟨p, by simp [hpaths], ?_⟩
  simp [startFromFiles, Prelude.path?, hpaths]

/-- Whatever the separator, where there are defaults a setting lists no path
    exactly if it is a text that is not empty and holds nothing but separators
    and blanks. A session that looks for its prelude then does not start and
    reads no file; with any other setting, it starts with what it finds at one of
    the paths. -/
theorem no_path_iff_listsNothing (separator : Char) (setting : Option String)
    {defaults : List String} (hdefaults : defaults ≠ []) :
    (Settings.paths setting defaults separator = [] ↔
      ∃ text, setting = some text ∧ Settings.ListsNothing separator text) ∧
    ∀ {m : Type → Type} [Monad m] (l : Limits) (files : Files m) (installed : String)
      (console : Console),
      ((∃ text, setting = some text ∧ Settings.ListsNothing separator text) →
        Session.startFromFiles l files setting installed console separator = pure none) ∧
      ((¬∃ text, setting = some text ∧ Settings.ListsNothing separator text) →
        ∃ p ∈ Settings.paths setting [installed] separator,
          Session.startFromFiles l files setting installed console separator = (do
            let prelude ← Prelude.load? files p
            return some (Session.start l prelude console))) := by
  refine ⟨Settings.paths_eq_nil_iff setting hdefaults, ?_⟩
  intro m _ l files installed console
  rw [← Settings.paths_eq_nil_iff setting (List.cons_ne_nil installed [])]
  constructor
  · intro hnone
    simp [Session.startFromFiles, Prelude.path?, hnone]
  · exact Session.startFromFiles_of_path l files console

/-- Three entries, each of them blank. -/
theorem no_path_iff_listsNothing_blanks :
    ["prelude"] ≠ [] ∧ Settings.paths (some " :\t:\u00a0") ["prelude"] = [] := by
  have hdefaults : ["prelude"] ≠ [] := by decide
  have hall : " :\t:\u00a0".toList.all (fun c => c == ':' || Text.isBlank c) = true := by decide
  have hblank : Settings.ListsNothing ':' " :\t:\u00a0" :=
    ⟨by decide, fun c hc => by simpa using List.all_eq_true.1 hall c hc⟩
  exact ⟨hdefaults, (no_path_iff_listsNothing ':' _ hdefaults).1.2 ⟨_, rfl, hblank⟩⟩

/-- A lone separator is a setting, and lists nothing. -/
theorem paths_lone_separator : Settings.paths (some ":") ["prelude"] = [] := by
  decide

end MiniLisp

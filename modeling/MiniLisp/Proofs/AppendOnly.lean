import MiniLisp.Proofs.Happening.Numbers
import MiniLisp.Proofs.ReadTerms

/-! # Nothing is taken back

    A session keeps what its programs have done to the outside: lines that were
    read are gone from the input, lines that were written stay written, and
    numbers that were given out are not given out again. None of this is undone
    when a program fails or recovers from an error, be it in the middle of a
    loop, of a macro or of another recovery.

    The lines that were read so far are as many as prompts were recorded, since
    each read records one prompt and nothing else does.

    * **`Happening.ReadsLine`** — what a read does;
    * **`unread_of_avoids`** — nothing but a read takes lines from the input;
    * **`Session.Occurs`** and **`Session.Moment`** — what happens in the run of
      a program of a session, and the states it goes through;
    * **`Session.AppendOnly`** — all that is kept;
    * **`nothing_is_taken_back`** — every session keeps it. -/

namespace MiniLisp

/-! ## Reads -/

/-- The prompt of a read that passes the check of its arguments. -/
def Visit.prompt? : Visit → Option String
  | .call (.builtin .read) [] _ => some ""
  | .call (.builtin .read) [.str prompt] _ => some prompt
  | _ => none

/-- The watch for reads. -/
def Visit.isRead : Watch :=
  fun v _ _ => v.prompt?.isSome

/-- The happening records the prompt and returns the next line, or it fails at
    the end of the input. -/
structure Happening.ReadsLine (h : Happening) (prompt : String) : Prop where
  prompts : h.after.console.prompts = h.before.console.prompts ++ [prompt]
  lines : h.after.console.lines = h.before.console.lines
  next : ∀ line rest, h.before.console.unread = line :: rest →
    h.outcome = .ok (.str line) h.after ∧ h.after.console.unread = rest
  atEnd : h.before.console.unread = [] →
    h.outcome = .error (.error (.read .endOfInput)) h.after ∧ h.after.console.unread = []

theorem run_of_prompt [Host.Platform] {v : Visit} {prompt : String} (h : v.prompt? = some prompt)
    (turns n : Nat) : v.run (passes turns (n + 1)) = Term.str <$> Action.readLine prompt := by
  unfold Visit.prompt? at h
  split at h
  · cases h
    rfl
  · cases h
    rfl
  · cases h

theorem readLine_next {s : State} {line : String} {rest : List String}
    (h : s.console.unread = line :: rest) (prompt : String) :
    (Term.str <$> Action.readLine prompt) s =
      .ok (.str line) { s with console := (s.console.readLine prompt).2 } := by
  have hline : (s.console.readLine prompt).1 = some line := by
    unfold Console.readLine
    rw [h]
  have hread := Action.readLine_eq prompt s
  rw [hline] at hread
  rw [← bind_pure_comp, Action.bind_ok hread]
  rfl

theorem readLine_atEnd {s : State} (h : s.console.unread = []) (prompt : String) :
    (Term.str <$> Action.readLine prompt) s = .error (.error (.read .endOfInput))
      { s with console := (s.console.readLine prompt).2 } := by
  have hline : (s.console.readLine prompt).1 = none := by
    unfold Console.readLine
    rw [h]
  have hread := Action.readLine_eq prompt s
  rw [hline] at hread
  rw [← bind_pure_comp, Action.bind_error hread]

/-- A read that is not cut short by the bound of the recursion reads a line. -/
theorem Happening.Genuine.readsLine [Host.Platform] {turns : Nat} {h : Happening} {prompt : String}
    (hgenuine : h.Genuine turns) (hprompt : h.visit.prompt? = some prompt) :
    h.ReadsLine prompt ∨ h.outcome = .error .exhausted h.before := by
  obtain ⟨n, hn⟩ := hgenuine
  cases n with
  | zero =>
    right
    rw [hn]
    cases h.visit <;> rfl
  | succ n =>
    left
    rw [run_of_prompt hprompt] at hn
    have hafter : h.after =
        { h.before with console := (h.before.console.readLine prompt).2 } := by
      unfold Happening.after
      cases hunread : h.before.console.unread with
      | nil => rw [hn, readLine_atEnd hunread]; rfl
      | cons line rest => rw [hn, readLine_next hunread]; rfl
    refine ⟨?_, ?_, fun line rest hunread => ⟨?_, ?_⟩, fun hunread => ⟨?_, ?_⟩⟩
    · rw [hafter, Console.prompts_readLine]
    · rw [hafter, Console.lines_readLine]
    · rw [hn, readLine_next hunread, hafter]
    · rw [hafter]
      simp [Console.readLine, hunread]
    · rw [hn, readLine_atEnd hunread, hafter]
    · rw [hafter]
      simp [Console.readLine, hunread]

/-! ## Nothing else takes lines -/

/-- The action leaves the input and the prompts as they are. -/
def LeavesInput {α : Type} (x : Action α) : Prop :=
  ∀ s : State, (x.after s).console.unread = s.console.unread ∧
    (x.after s).console.prompts = s.console.prompts

section Input

variable {turns depth : Nat} {stop : Stop} {α β : Type} {x : Action α}

theorem LeavesInput.same (hx : ∀ s, (x.after s).console = s.console) : LeavesInput x := by
  intro s
  rw [hx]
  exact ⟨rfl, rfl⟩

theorem LeavesInput.sequel {k : Except Stop α → Action β} (hx : LeavesInput x)
    (hk : ∀ r, LeavesInput (k r)) : LeavesInput (x.sequel k) := by
  intro s
  have hfirst := hx s
  have hrest := hk (x.ending s) (x.after s)
  exact ⟨hrest.1.trans hfirst.1, hrest.2.trans hfirst.2⟩

/-- To leave the input as it is, where reads are watched for, is a congruence. -/
def leavingInput [Host.Platform] : Congruence where
  rel _ _ _ y _ := LeavesInput y
  apart code := code = .builtin .read
  widen _ _ _ _ _ hy := hy
  value _ _ _ := .same fun _ => rfl
  stop _ _ _ _ := .same fun _ => rfl
  state _ := .same fun _ => rfl
  sequel own _ _ _ _ _ _ _ _ hy hk hthrow :=
    hy.sequel (ActionRelation.each (fun _ _ _ y _ => LeavesInput y) own
      (fun _ => .same fun _ => rfl) hk hthrow)
  newScope scope _ _ _ _ hf :=
    fun s => hf s.scopes.size { s with scopes := s.scopes.addChild scope }
  define _ _ _ := .same fun _ => rfl
  assign _ _ _ := .same fun _ => rfl
  addMacro _ := .same fun _ => rfl
  newFunction _ _ _ _ := .same fun _ => rfl
  nextBranch := .same fun _ => rfl
  nextLambda := .same fun _ => rfl
  writeLine text := fun s => ⟨Console.unread_writeLine s.console text,
    Console.prompts_writeLine s.console text⟩
  readLine hread := absurd rfl hread
  host program _ p scope := .same fun s => by rw [Action.after_host]

/-- A read that fails the check of its arguments leaves the input as it is. -/
theorem leavesInput_callRead {arguments : List Term} {scope : ScopeId}
    (h : (Visit.call (.builtin .read) arguments scope).prompt? = none) :
    LeavesInput (Builtin.callRead arguments) := by
  unfold Visit.prompt? at h
  unfold Builtin.callRead
  split
  · cases h
  · cases h
  · exact .same fun s => rfl

theorem relPasses_leavingInput [Host.Platform] (turns : Nat) (stop : Stop) (depth : Nat) :
    leavingInput.RelPasses (passes turns depth) (watchedPasses turns Visit.isRead stop depth)
      (watchedPasses turns Visit.isRead stop depth) := by
  refine Congruence.relPasses_watchedPasses (fun n v hcourse s => ?_) depth
  by_cases hread : Visit.isRead v s (v.run (coursePasses turns Visit.isRead stop n) s)
  -- The watch ends a read in the state that it began in.
  · have hstops : (v.run (coursePasses turns Visit.isRead stop n)).watched (Visit.isRead v) stop s =
        .error stop s := Action.watched_of_bad hread
    rw [Action.after_error hstops]
    exact ⟨rfl, rfl⟩
  · have hsame : (v.run (coursePasses turns Visit.isRead stop n)).watched (Visit.isRead v) stop s =
        v.run (coursePasses turns Visit.isRead stop n) s := Action.watched_of_not hread
    rw [Action.after_congr hsame]
    by_cases hv : v.Apart leavingInput.apart
    · cases v with
      | expand t scope => exact hv.elim
      | evaluate t scope => exact hv.elim
      | call code arguments scope =>
        obtain rfl : code = .builtin .read := hv
        cases n with
        | zero => exact ⟨rfl, rfl⟩
        | succ n => exact leavesInput_callRead (Option.not_isSome_iff_eq_none.1 hread) s
    · exact hcourse hv s

/-- A run without reads leaves the input and the prompts as they are. -/
theorem unread_of_avoids [Host.Platform]
    {own : Option ScopeId} {run : Passes → Action α} {s : State}
    (hrun : Regular own run) (havoids : Avoids turns depth Visit.isRead run s) :
    ((run (passes turns depth)).after s).console.unread = s.console.unread ∧
      ((run (passes turns depth)).after s).console.prompts = s.console.prompts := by
  have hpasses := relPasses_leavingInput turns .memory depth
  have hinput : LeavesInput (run (watchedPasses turns Visit.isRead .memory depth)) :=
    hrun _ _ _ _ hpasses
  rw [← Action.after_congr (havoids .memory)]
  exact hinput s

end Input

/-! ## Runs of a session -/

namespace State

variable (console : Console) (branches lambdas : Nat)

theorem root_console : (root console branches lambdas).console = console := rfl

theorem root_branches : (root console branches lambdas).branches = branches := rfl

theorem root_lambdas : (root console branches lambdas).lambdas = lambdas := rfl

end State

namespace Session

/-- The run of a program's forms after the prelude. -/
def course (session : Session) (forms : List Term) (p : Passes) : Action String :=
  runProgram p (session.prelude ++ forms) rootScope

variable [Host.Platform]

/-- It happens in the run of the program. -/
def Occurs (l : Limits) (session : Session) (program : String) (h : Happening) : Prop :=
  ∃ forms, Term.parseWithin l.depth program = .ok forms ∧
    Happens l.turns l.depth (session.course forms) session.initial h

/-- The state that the run of the program leaves behind. -/
def final (l : Limits) (session : Session) (program : String) : State :=
  match Term.parseWithin l.depth program with
  | .error _ => session.initial
  | .ok forms => (session.course forms l.passes).after session.initial

/-- The states that the run of the program goes through. -/
inductive Moment (l : Limits) (session : Session) (program : String) : State → Prop where
  | initial : Moment l session program session.initial
  | before {h : Happening} (hh : session.Occurs l program h) : Moment l session program h.before
  | after {h : Happening} (hh : session.Occurs l program h) : Moment l session program h.after
  | final : Moment l session program (session.final l program)

/-- The session after some programs. -/
def after (l : Limits) (session : Session) (programs : List String) : Session :=
  programs.foldl (fun session program => (session.run l program).2) session

variable {l : Limits} {session : Session} {program : String} {h : Happening}

theorem run_snd (l : Limits) (session : Session) (program : String) :
    (session.run l program).2 = session.resume (session.final l program) := by
  unfold run final course
  cases Term.parseWithin l.depth program with
  | error stop => rfl
  | ok forms =>
    dsimp only
    unfold Action.after
    cases runProgram l.passes (session.prelude ++ forms) rootScope session.initial <;> rfl

omit [Host.Platform] in
theorem eq_of_start {prelude : Option String} {console : Console} {started : Session}
    (h : start l prelude console = .ok started) : ∃ forms, started = ⟨forms, console, 0, 0⟩ := by
  rcases start_cases h with ⟨-, rfl⟩ | ⟨text, forms, -, -, rfl⟩
  · exact ⟨[], rfl⟩
  · exact ⟨forms, rfl⟩

theorem Occurs.onward (hh : session.Occurs l program h) :
    session.initial.Onward h.before ∧ h.before.Onward h.after ∧
      h.after.Onward (session.final l program) ∧ h.Genuine l.turns := by
  obtain ⟨forms, hforms, hhappens⟩ := hh
  have hregular : Regular (some rootScope) (session.course forms) :=
    regular_runProgram (session.prelude ++ forms) rootScope
  obtain ⟨hbefore, hafter, hgenuine⟩ := hhappens.onward hregular
  refine ⟨hbefore, hgenuine.onward, ?_, hgenuine⟩
  unfold final
  rw [hforms]
  exact hafter

theorem initial_onward_final : session.initial.Onward (session.final l program) := by
  unfold final
  cases Term.parseWithin l.depth program with
  | error stop => exact .refl _
  | ok forms =>
    have hregular : Regular (some rootScope) (session.course forms) :=
      regular_runProgram (session.prelude ++ forms) rootScope
    have hpasses := Congruence.relPasses_passes (C := Footprint.onward.congruence) (fun _ => id)
      l.turns l.depth
    exact hregular _ _ _ _ hpasses session.initial

/-- Each state of a run lies between its beginning and its end. -/
theorem Moment.onward {s : State} (hs : session.Moment l program s) :
    session.initial.Onward s ∧ s.Onward (session.final l program) := by
  cases hs with
  | initial => exact ⟨.refl _, initial_onward_final⟩
  | before hh =>
    obtain ⟨hbefore, hgoes, hafter, -⟩ := hh.onward
    exact ⟨hbefore, hgoes.trans hafter⟩
  | after hh =>
    obtain ⟨hbefore, hgoes, hafter, -⟩ := hh.onward
    exact ⟨hbefore.trans hgoes, hafter⟩
  | final => exact ⟨initial_onward_final, .refl _⟩

theorem Occurs.ordered {h' : Happening} (hh : session.Occurs l program h)
    (hh' : session.Occurs l program h') : Ordered l.turns h h' := by
  obtain ⟨forms, hforms, hhappens⟩ := hh
  obtain ⟨forms', hforms', hhappens'⟩ := hh'
  cases hforms.symm.trans hforms'
  exact hhappens.ordered (regular_runProgram (session.prelude ++ forms) rootScope) hhappens'

/-- What a program leaves behind is what the next program begins with, except
    for the scopes and the macros. -/
theorem final_carried :
    (session.final l program).Carried (session.run l program).2.initial := by
  rw [run_snd]
  unfold initial resume
  refine ⟨?_, ?_, ?_⟩
  · rw [State.root_console]
    exact .refl _
  · rw [State.root_branches]
  · rw [State.root_lambdas]

theorem initial_carried_after (programs : List String) (session : Session) :
    session.initial.Carried (session.after l programs).initial := by
  induction programs generalizing session with
  | nil => exact (State.Onward.refl _).toCarried
  | cons program rest ih =>
    have hrun : session.initial.Onward (session.final l program) := initial_onward_final
    exact (hrun.toCarried.trans final_carried).trans (ih (session.run l program).2)

theorem after_append (before programs : List String) :
    session.after l (before ++ programs) = (session.after l before).after l programs := by
  unfold after
  rw [List.foldl_append]

/-- The states of a program's run carry on to those of a later one's. -/
theorem Moment.carried {before between : List String} {program program' : String} {s s' : State}
    (hs : (session.after l before).Moment l program s)
    (hs' : (session.after l (before ++ program :: between)).Moment l program' s') :
    s.Carried s' := by
  have hend := hs.onward.2.toCarried.trans final_carried
  have hbegin := hs'.onward.1.toCarried
  rw [after_append] at hbegin
  have hbetween := initial_carried_after (l := l) between ((session.after l before).run l program).2
  exact (hend.trans hbetween).trans hbegin

/-! ## What a session keeps -/

/-- No two happenings of the session give the same number, and later programs
    give greater ones. A visit that gives a number leaves the counter higher
    than it finds it; so two of them are two happenings even if the same was
    asked for. -/
structure GivesOnce (l : Limits) (started : Session) (gives : Happening → Nat → Prop) : Prop where
  eq : ∀ before program h h' n, (started.after l before).Occurs l program h →
    (started.after l before).Occurs l program h' → gives h n → gives h' n → h = h'
  lt : ∀ before program between program' h h' n n',
    (started.after l before).Occurs l program h →
    (started.after l (before ++ program :: between)).Occurs l program' h' →
    gives h n → gives h' n' → n < n'

/-- What a session keeps that began with some lines to read, through all its
    programs, whether they succeed or fail. -/
structure AppendOnly (l : Limits) (lines : List String) (started : Session) : Prop where
  /-- At every moment the lines that were returned so far, one for each prompt,
      and the unread lines are all lines. -/
  lines_eq : ∀ before program s, (started.after l before).Moment l program s →
    lines.take s.console.prompts.length ++ s.console.unread = lines
  /-- A read returns the next line or fails at the end of the input, unless the
      recursion is too deep for it to begin. -/
  reads : ∀ before program h prompt, (started.after l before).Occurs l program h →
    h.visit.prompt? = some prompt → h.ReadsLine prompt ∨ h.outcome = .error .exhausted h.before
  /-- A read returns the line whose place is the number of reads before it. -/
  returns : ∀ before program h prompt line s, (started.after l before).Occurs l program h →
    h.visit.prompt? = some prompt → h.outcome = .ok (.str line) s →
    lines[h.before.console.prompts.length]? = some line
  /-- Nothing else takes a line or records a prompt. -/
  reads_only : ∀ depth (v : Visit) s, Avoids l.turns depth Visit.isRead v.run s →
    ((v.run (passes l.turns depth)).after s).console.unread = s.console.unread ∧
      ((v.run (passes l.turns depth)).after s).console.prompts = s.console.prompts
  /-- Whatever happens leads onward from the beginning of the run to its end. -/
  onward : ∀ before program h, (started.after l before).Occurs l program h →
    (started.after l before).initial.Onward h.before ∧ h.before.Onward h.after ∧
      h.after.Onward ((started.after l before).final l program)
  /-- Of any two moments of a run one leads onward to the other: the output
      grows at its end, and macros that have a name keep it. -/
  total : ∀ before program s s', (started.after l before).Moment l program s →
    (started.after l before).Moment l program s' → s.Onward s' ∨ s'.Onward s
  /-- Every program goes on from where the programs before it have stopped. -/
  carried : ∀ before program between program' s s',
    (started.after l before).Moment l program s →
    (started.after l (before ++ program :: between)).Moment l program' s' → s.Carried s'
  /-- Every choice that is expanded gets a number. -/
  branch_shows : ∀ before program h arguments r, (started.after l before).Occurs l program h →
    h.Expands .branch arguments r → ∃ n, r.ShowsBranch n
  branch_once : GivesOnce l started fun h n =>
    ∃ arguments r, h.Expands .branch arguments r ∧ r.ShowsBranch n
  /-- Every function without a name that is expanded gets a number. -/
  lambda_shows : ∀ before program h arguments r, (started.after l before).Occurs l program h →
    h.Expands .lambda arguments r → (Expansion.takeText arguments).1 = none →
    ∃ n, r.ShowsLambda n
  lambda_once : GivesOnce l started fun h n =>
    ∃ arguments r, h.Expands .lambda arguments r ∧ (Expansion.takeText arguments).1 = none ∧
      r.ShowsLambda n

/-- Numbers that are taken from a counter are given once. -/
theorem givesOnce_of_takes {started : Session} {gives : Happening → Nat → Prop}
    {counter : State → Nat} (hcounter : ∀ s s', State.Carried s s' → counter s ≤ counter s')
    (htakes : ∀ h n, h.Genuine l.turns → gives h n → h.Takes l.turns counter n) :
    GivesOnce l started gives where
  eq before program h h' n hh hh' hn hn' := by
    have htaken := htakes h n hh.onward.2.2.2 hn
    have htaken' := htakes h' n hh'.onward.2.2.2 hn'
    exact (hh.ordered hh').eq_of_takes (fun s s' honward => hcounter s s' honward.toCarried)
      htaken htaken'
  lt before program between program' h h' n n' hh hh' hn hn' := by
    have htaken := htakes h n hh.onward.2.2.2 hn
    have htaken' := htakes h' n' hh'.onward.2.2.2 hn'
    have hcarried := Moment.carried (.after hh) (.before hh')
    have hle := hcounter _ _ hcarried
    have hafter := htaken.after_eq
    have hbefore := htaken'.before_le
    omega

omit [Host.Platform] in
/-- All that was returned and all that is unread, together. -/
theorem lines_eq_of_onward {lines : List String} {c : Console}
    (h : (Console.ofLines lines).Onward c) : lines.take c.prompts.length ++ c.unread = lines := by
  have hunread : c.unread = lines.drop c.prompts.length := h.unread
  rw [hunread, List.take_append_drop]

omit [Host.Platform] in
/-- What a read returns is the line that follows those returned before. -/
theorem returns_of_onward {lines : List String} {line prompt : String} {s : State}
    (h' : (Console.ofLines lines).Onward h.before.console) (hreads : h.ReadsLine prompt)
    (hends : h.outcome = .ok (.str line) s) :
    lines[h.before.console.prompts.length]? = some line := by
  have hunread : h.before.console.unread = lines.drop h.before.console.prompts.length := h'.unread
  rw [← List.head?_drop, ← hunread]
  cases hlines : h.before.console.unread with
  | nil =>
    rw [(hreads.atEnd hlines).1] at hends
    cases hends
  | cons next rest =>
    rw [(hreads.next next rest hlines).1] at hends
    cases hends
    rfl

/-- Of two moments of a run, one leads onward to the other. -/
theorem Moment.total {s s' : State} (hs : session.Moment l program s)
    (hs' : session.Moment l program s') : s.Onward s' ∨ s'.Onward s := by
  -- Apart from the beginning and the end of the run, a moment is an end of a happening.
  have hends : ∀ s, session.Moment l program s → s = session.initial ∨
      s = session.final l program ∨
      ∃ h, session.Occurs l program h ∧ (s = h.before ∨ s = h.after) := by
    intro s hs
    cases hs with
    | initial => exact .inl rfl
    | before hh => exact .inr (.inr ⟨_, hh, .inl rfl⟩)
    | after hh => exact .inr (.inr ⟨_, hh, .inr rfl⟩)
    | final => exact .inr (.inl rfl)
  rcases hends s hs with rfl | rfl | ⟨h, hh, hend⟩
  · exact .inl hs'.onward.1
  · exact .inr hs'.onward.2
  rcases hends s' hs' with rfl | rfl | ⟨h', hh', hend'⟩
  · exact .inr hs.onward.1
  · exact .inl hs.onward.2
  · exact (hh.ordered hh').total hh.onward.2.2.2 hh'.onward.2.2.2 hend hend'

end Session

/-- A session that begins with some lines to read takes nothing back, neither in
    the run of a program nor from one program to the next: not a line that was
    read or written, not a macro's name before the program ends, and not a
    number. -/
theorem nothing_is_taken_back [Host.Platform]
    {l : Limits} {prelude : Option String} {lines : List String}
    {started : Session}
    (hstart : Session.start l prelude (Console.ofLines lines) = .ok started) :
    started.AppendOnly l lines := by
  have hconsole : started.console = Console.ofLines lines := by
    obtain ⟨forms, rfl⟩ := Session.eq_of_start hstart
    rfl
  have hlines : ∀ before program s, (started.after l before).Moment l program s →
      (Console.ofLines lines).Onward s.console := by
    intro before program s hs
    have hbegin := Session.initial_carried_after (l := l) before started
    have hreached := (hbegin.trans hs.onward.1.toCarried).console
    unfold Session.initial at hreached
    rwa [State.root_console, hconsole] at hreached
  refine ⟨?_, ?_, ?_, ?_, ?_, ?_, ?_, ?_, ?_, ?_, ?_⟩
  · exact fun before program s hs => Session.lines_eq_of_onward (hlines before program s hs)
  · exact fun before program h prompt hh hprompt => hh.onward.2.2.2.readsLine hprompt
  · intro before program h prompt line s hh hprompt hends
    rcases hh.onward.2.2.2.readsLine hprompt with hreads | hexhausted
    · exact Session.returns_of_onward (hlines before program _ (.before hh)) hreads hends
    · rw [hexhausted] at hends
      cases hends
  · exact fun depth v s havoids => unread_of_avoids (regular_visit v) havoids
  · intro before program h hh
    obtain ⟨hbefore, hgoes, hafter, -⟩ := hh.onward
    exact ⟨hbefore, hgoes, hafter⟩
  · exact fun before program s s' hs hs' => hs.total hs'
  · exact fun before program between program' s s' hs hs' => hs.carried hs'
  · intro before program h arguments r hh hexpands
    obtain ⟨n, hshows, -⟩ := hexpands.branch_takes hh.onward.2.2.2
    exact ⟨n, hshows⟩
  · refine Session.givesOnce_of_takes (fun s s' hcarried => hcarried.branches_le) ?_
    rintro h n hgenuine ⟨arguments, r, hexpands, hshows⟩
    obtain ⟨n', hshows', htakes⟩ := hexpands.branch_takes hgenuine
    exact hshows.unique hshows' ▸ htakes
  · intro before program h arguments r hh hexpands hunnamed
    obtain ⟨n, hshows, -⟩ := hexpands.lambda_takes hunnamed hh.onward.2.2.2
    exact ⟨n, hshows⟩
  · refine Session.givesOnce_of_takes (fun s s' hcarried => hcarried.lambdas_le) ?_
    rintro h n hgenuine ⟨arguments, r, hexpands, hunnamed, hshows⟩
    obtain ⟨n', hshows', htakes⟩ := hexpands.lambda_takes hunnamed hgenuine
    exact hshows.unique hshows' ▸ htakes

/-- A session with a prelude and two lines to read, and a program that reads the
    first one with the prompt of the prelude. -/
theorem nothing_is_taken_back_two_lines :
    let forms := [Term.list [.sym "define" 1, .sym "prompt" 1, .str "name?"]]
    let started : Session := ⟨forms, Console.ofLines ["a", "b"], 0, 0⟩
    Session.start ⟨9, 9⟩ (some "(define prompt \"name?\")") (Console.ofLines ["a", "b"]) =
        .ok started ∧
      (started.run ⟨9, 9⟩ "(read prompt)").1.isOk = true ∧
      started.AppendOnly ⟨9, 9⟩ ["a", "b"] := by
  intro forms started
  have hscan : Token.scan "(define prompt \"name?\")" = .ok [⟨.openParen, some "(", 1⟩,
      ⟨.symbol, some "define", 1⟩, ⟨.symbol, some "prompt", 1⟩, ⟨.string, some "name?", 1⟩,
      ⟨.closeParen, some ")", 1⟩] := by decide +kernel
  have hstart : Session.start ⟨9, 9⟩ (some "(define prompt \"name?\")")
      (Console.ofLines ["a", "b"]) = .ok started := by
    simp only [Session.start, Term.parseWithin_of_scan 9 hscan]
    rfl
  exact ⟨hstart, by decide +kernel, nothing_is_taken_back hstart⟩

end MiniLisp

import MetricQuery.Proofs.RoundTrip
import MetricQuery.Settings.Cache
import Mathlib.Data.List.Induction

/-!
# What the settings cache answers

**Theorem (`answered_run`).** In a sequence of calls, each of them with an environment of its own
and with or without clearing the cache first, a call is answered with the settings of the earliest
environment since the last clearing that gives any, whatever the environments after it. Where none
has given any, the answer is what is wrong with the environment of this call, and nothing is kept.
All settings answered have valid limits.

The calls since the last clearing are a window at the end of the history (`IsWindow`). The invariant
says what the cache keeps of its window (`Keeps`): the first settings built there, if any. One call
either starts a new window or makes the window longer by itself (`answers_step`).
-/

namespace MetricQuery

/-! ## Limits -/

namespace Settings

variable {arguments : Members} {env : Environment}

theorem one_le_of_setting {name : String} {absent n : Int} (habsent : 1 ≤ absent)
    (h : setting arguments env name absent Read.positive = .accepted n) : 1 ≤ n := by
  unfold setting at h
  split at h
  · exact Read.one_le_of_positive (Checked.under_eq_accepted.1 h)
  · obtain rfl : absent = n := by simpa using h
    exact habsent

theorem valid_of_read {s : Settings} (h : read arguments env = .accepted s) : s.Valid := by
  unfold read at h
  simp only [Checked.seq_eq_accepted, Checked.map_eq_accepted] at h
  -- One pattern for each setting, the first innermost; the names of columns have no limits.
  obtain ⟨_, _, ⟨_, _, ⟨_, _, ⟨_, maxRows, ⟨_, defaultRows, ⟨maxDays, hmaxDays, rfl⟩,
    hdefaultRows, rfl⟩, hmaxRows, rfl⟩, -, rfl⟩, -, rfl⟩, -, rfl⟩ := h
  have hdays : 1 ≤ maxDays := one_le_of_setting (by decide) hmaxDays
  have hdefault : 1 ≤ defaultRows := one_le_of_setting (by decide) hdefaultRows
  have hmax : 1 ≤ maxRows := one_le_of_setting (by decide) hmaxRows
  exact ⟨hdays, hdefault, hmax⟩

end Settings

namespace SettingsCache

/-! ## Histories -/

/-- What the environment of a call gives. -/
def Call.built (c : Call) : Checked Settings := Settings.read [] c.env

def Call.Fails (c : Call) : Prop := ∃ issues, c.built = .rejected issues

/-- What is kept after a sequence of calls, from an empty cache. -/
def after (calls : List Call) : SettingsCache :=
  calls.foldl (fun cache c => (step cache c).2) none

theorem after_append_singleton (calls : List Call) (c : Call) :
    after (calls ++ [c]) = (step (after calls) c).2 := by
  simp [after]

@[simp] theorem length_run (cache : SettingsCache) (calls : List Call) :
    (run cache calls).length = calls.length := by
  induction calls generalizing cache with
  | nil => rfl
  | cons c calls ih => simp [run, ih]

theorem run_append (cache : SettingsCache) (calls more : List Call) :
    run cache (calls ++ more) =
      run cache calls ++ run (calls.foldl (fun cache c => (step cache c).2) cache) more := by
  induction calls generalizing cache with
  | nil => rfl
  | cons c calls ih =>
    show (step cache c).1 :: run (step cache c).2 (calls ++ more) = _
    rw [ih]
    rfl

/-- The answer to a call is that of one step from what the calls before it left. -/
theorem getElem?_run (before : List Call) (c : Call) (later : List Call) :
    (run none (before ++ c :: later))[before.length]? = some (step (after before) c).1 := by
  rw [run_append, List.getElem?_append_right (by simp), length_run, Nat.sub_self]
  rfl

/-! ## Windows -/

/-- `window` is the end of `history` from the last call on that clears the cache, or all of it when
no call does. -/
structure IsWindow (history window : List Call) : Prop where
  ends : ∃ old, history = old ++ window ∧
    (old = [] ∨ ∃ first rest, window = first :: rest ∧ first.clear = true)
  uncleared : ∀ c ∈ window.tail, c.clear = false

namespace IsWindow

variable {history window : List Call} {c : Call}

theorem nil : IsWindow [] [] := ⟨⟨[], rfl, .inl rfl⟩, by simp⟩

theorem cleared (history : List Call) (hc : c.clear = true) : IsWindow (history ++ [c]) [c] :=
  ⟨⟨history, rfl, .inr ⟨c, [], rfl, hc⟩⟩, by simp⟩

theorem longer (h : IsWindow history window) (hc : c.clear = false) :
    IsWindow (history ++ [c]) (window ++ [c]) := by
  obtain ⟨⟨old, rfl, hold⟩, huncleared⟩ := h
  refine ⟨⟨old, List.append_assoc .., ?_⟩, ?_⟩
  · rcases hold with rfl | ⟨first, rest, rfl, hfirst⟩
    · exact .inl rfl
    · exact .inr ⟨first, rest ++ [c], rfl, hfirst⟩
  · intro d hd
    cases window with
    | nil => simp at hd
    | cons first rest =>
      rcases List.mem_append.1 hd with hd | hd
      · exact huncleared d hd
      · rw [List.mem_singleton.1 hd, hc]

/-- A window cannot be longer than another: it would hold the clearing that the other starts
with. -/
theorem extra_eq_nil {old old' window' : List Call} (h : ∀ d ∈ window.tail, d.clear = false)
    (hwindow : window = old ++ window')
    (h' : old' ++ old = [] ∨ ∃ first rest, window' = first :: rest ∧ first.clear = true) :
    old = [] := by
  rcases h' with hnil | ⟨first, rest, rfl, hfirst⟩
  · exact (List.append_eq_nil_iff.1 hnil).2
  · cases old with
    | nil => rfl
    | cons o old =>
      subst hwindow
      have hclear : first.clear = false := h first (by simp)
      rw [hfirst] at hclear
      contradiction

theorem unique {window' : List Call} (h : IsWindow history window)
    (h' : IsWindow history window') : window = window' := by
  obtain ⟨⟨old, rfl, hold⟩, huncleared⟩ := h
  obtain ⟨⟨old', heq, hold'⟩, huncleared'⟩ := h'
  rcases List.append_eq_append_iff.1 heq with ⟨between, rfl, hwindow⟩ | ⟨between, rfl, hwindow⟩
  · have hnil := extra_eq_nil huncleared hwindow hold'
    rw [hwindow, hnil, List.nil_append]
  · have hnil := extra_eq_nil huncleared' hwindow hold
    rw [hwindow, hnil, List.nil_append]

end IsWindow

/-! ## What is kept of a window -/

/-- What the cache keeps of a window of calls: the first settings built, if any. -/
inductive Keeps (window : List Call) : SettingsCache → Prop
  | nothing : (∀ c ∈ window, c.Fails) → Keeps window none
  | first {failed later : List Call} {c : Call} {s : Settings} :
      window = failed ++ c :: later → (∀ d ∈ failed, d.Fails) → c.built = .accepted s →
      Keeps window (some s)

/-- What the last call of a window is answered, and what is kept then. -/
inductive Answers (window : List Call) (last : Call) : Checked Settings → SettingsCache → Prop
  | first {failed later : List Call} {c : Call} {s : Settings} :
      window = failed ++ c :: later → (∀ d ∈ failed, d.Fails) → c.built = .accepted s →
      Answers window last (.accepted s) (some s)
  | failure {issues : List Issue} :
      (∀ c ∈ window, c.Fails) → last.built = .rejected issues →
      Answers window last (.rejected issues) none

variable {window : List Call} {cache : SettingsCache}

theorem Answers.keeps {last : Call} {answer : Checked Settings}
    (h : Answers window last answer cache) : Keeps window cache := by
  cases h with
  | first hwindow hfailed hbuilt => exact .first hwindow hfailed hbuilt
  | failure hfails _ => exact .nothing hfails

theorem answers_fetch (h : Keeps window cache) (c : Call) :
    Answers (window ++ [c]) c (fetch cache c.env).1 (fetch cache c.env).2 := by
  cases h with
  | @first failed later d s hwindow hfailed hbuilt =>
    subst hwindow
    exact .first (List.append_assoc failed (d :: later) [c]) hfailed hbuilt
  | nothing hfails =>
    cases hbuilt : c.built with
    | accepted s =>
      have hfetch : fetch none c.env = (.accepted s, some s) := by
        unfold fetch
        rw [show Settings.read [] c.env = .accepted s from hbuilt]
      rw [hfetch]
      exact .first rfl hfails hbuilt
    | rejected issues =>
      have hfetch : fetch none c.env = (.rejected issues, none) := by
        unfold fetch
        rw [show Settings.read [] c.env = .rejected issues from hbuilt]
      rw [hfetch]
      refine .failure ?_ hbuilt
      intro d hd
      rcases List.mem_append.1 hd with hd | hd
      · exact hfails d hd
      · exact List.mem_singleton.1 hd ▸ ⟨issues, hbuilt⟩

/-- One call starts a window or makes it longer by itself, and is answered from that window. -/
theorem answers_step {history : List Call} (hwindow : IsWindow history window)
    (hkeeps : Keeps window cache) (c : Call) :
    ∃ window', IsWindow (history ++ [c]) window' ∧
      Answers window' c (step cache c).1 (step cache c).2 := by
  cases hclear : c.clear with
  | true =>
    have hstep : step cache c = fetch none c.env := by simp [step, hclear]
    have hnothing : Keeps [] none := .nothing (by simp)
    exact ⟨[c], .cleared history hclear, hstep ▸ answers_fetch hnothing c⟩
  | false =>
    have hstep : step cache c = fetch cache c.env := by simp [step, hclear]
    exact ⟨window ++ [c], hwindow.longer hclear, hstep ▸ answers_fetch hkeeps c⟩

/-- The invariant of whole runs. -/
theorem exists_keeps (history : List Call) :
    ∃ window, IsWindow history window ∧ Keeps window (after history) := by
  induction history using List.reverseRecOn with
  | nil => exact ⟨[], .nil, .nothing (by simp)⟩
  | append_singleton history c ih =>
    obtain ⟨window, hwindow, hkeeps⟩ := ih
    obtain ⟨window', hwindow', hanswers⟩ := answers_step hwindow hkeeps c
    exact ⟨window', hwindow', after_append_singleton history c ▸ hanswers.keeps⟩

theorem Answers.valid {last : Call} {s : Settings}
    (h : Answers window last (.accepted s) cache) : s.Valid := by
  cases h with
  | first _ _ hbuilt => exact Settings.valid_of_read hbuilt

/-- **First success since the last clearing.** -/
theorem answered_run (before : List Call) (c : Call) (later : List Call) :
    ∃ window, IsWindow (before ++ [c]) window ∧
      (∀ other, IsWindow (before ++ [c]) other → other = window) ∧
      ∃ answer, (run none (before ++ c :: later))[before.length]? = some answer ∧
        Answers window c answer (after (before ++ [c])) ∧
        ∀ s, answer = .accepted s → s.Valid := by
  obtain ⟨window, hwindow, hkeeps⟩ := exists_keeps before
  obtain ⟨window', hwindow', hanswers⟩ := answers_step hwindow hkeeps c
  rw [← after_append_singleton] at hanswers
  refine ⟨window', hwindow', fun other hother => hother.unique hwindow', (step (after before) c).1,
    getElem?_run before c later, hanswers, ?_⟩
  intro s hs
  rw [hs] at hanswers
  exact hanswers.valid

/-- A failure is not kept, settings are kept over later environments, and a clearing drops them. -/
example :
    (run none [{ env := [("SEMANTIC_COMPILER_DEFAULT_ROW_LIMIT", "0")] },
      { env := [("SEMANTIC_COMPILER_DEFAULT_ROW_LIMIT", "7")] },
      { env := [("SEMANTIC_COMPILER_DEFAULT_ROW_LIMIT", "0")] },
      { clear := true, env := [] }]).map (fun answer => answer.toOption.map Settings.defaultRows) =
    [none, some 7, some 7, some 10000] := by
  decide +kernel

end SettingsCache

end MetricQuery

import ExprLex.BracketLog
import Mathlib.Data.List.DropRight

/-!
# Histories of Bracket Logs

A log may be used in any way: at positions in any order, with any bracket on either side, and with
more levels closed than were opened. It keeps the changes behind the last one that dropped all
entries, one entry for each, and the depth of an entry is the balance of the changes up to it. One
command keeps this up (`Keeps.perform`), and so does a sequence of commands (`Keeps.after`). The
position that is told as open follows from the newest entry alone.
-/

namespace ExprLex.BracketLog

/-! ## What is kept of a history -/

namespace Change

/-- Whether a change opens a level. -/
def isOpening : Change → Bool
  | .opening _ _ => true
  | _ => false

/-- Whether a change closes a level. -/
def isClosing : Change → Bool
  | .closing _ _ => true
  | _ => false

/-- The position and the bracket that a change records. -/
def recorded? : Change → Option (Int × Bracket)
  | .opening position bracket | .closing position bracket => some (position, bracket)
  | .clearing => none

/-- By how much a change moves the depth. -/
def depthStep : Change → Int
  | .opening _ _ => 1
  | .closing _ _ => -1
  | .clearing => 0

end Change

/-- The change that a command makes, unless it is a question. -/
def Command.change? : Command → Option Change
  | .change made => some made
  | .depth | .unmatchedOpen => none

/-- The changes behind the last one that drops all entries. -/
def sinceCleared (changes : List Change) : List Change :=
  changes.rtakeWhile (· ≠ .clearing)

/-- By how many there are more levels opened than closed. -/
def balance (changes : List Change) : Int :=
  changes.countP Change.isOpening - changes.countP Change.isClosing

/-- A log has what a sequence of changes records. -/
structure Keeps (log : BracketLog) (changes : List Change) : Prop where
  /-- There is one entry for each change, in order, with its position and its bracket. -/
  recorded : log.entries.map (fun entry => some (entry.position, entry.bracket)) =
    changes.map Change.recorded?
  /-- The depth of an entry is the balance of the changes up to it, its own included. -/
  depths : ∀ i entry, log.entries[i]? = some entry →
    entry.depth = balance (changes.take (i + 1))
  /-- The depth of the log is the balance of all changes. -/
  depth : log.depth = balance changes

variable {log : BracketLog} {changes : List Change} {change : Change} {command : Command}
  {position : Int} {bracket : Bracket} {e : BracketLogError}

/-! ## One change more -/

/-- The last change moves the balance by its own step. -/
theorem balance_append_singleton (changes : List Change) (change : Change) :
    balance (changes ++ [change]) = balance changes + change.depthStep := by
  cases change with
  | opening position bracket =>
    simp [balance, Change.isOpening, Change.isClosing, Change.depthStep, List.countP_append]
    omega
  | closing position bracket =>
    simp [balance, Change.isOpening, Change.isClosing, Change.depthStep, List.countP_append]
    omega
  | clearing =>
    simp [balance, Change.isOpening, Change.isClosing, Change.depthStep, List.countP_append]

theorem sinceCleared_append_clearing (changes : List Change) :
    sinceCleared (changes ++ [.clearing]) = [] :=
  List.rtakeWhile_concat_neg _ _ _ (by simp)

theorem sinceCleared_append_of_ne (h : change ≠ .clearing) (changes : List Change) :
    sinceCleared (changes ++ [change]) = sinceCleared changes ++ [change] :=
  List.rtakeWhile_concat_pos _ _ _ (by simpa using h)

/-- Either side is recorded with the depth to which it leads. -/
theorem apply_of_recorded? (h : change.recorded? = some (position, bracket)) :
    log.apply change = log.record position (log.depth + change.depthStep) bracket := by
  cases change with
  | opening => cases h; rfl
  | closing => cases h; rfl
  | clearing => cases h

theorem keeps_empty : empty.Keeps [] where
  recorded := rfl
  depths i entry h := by cases h
  depth := rfl

/-- What is recorded stands behind all that was recorded before. -/
theorem Keeps.record (hlog : log.Keeps changes)
    (h : change.recorded? = some (position, bracket)) :
    (log.record position (log.depth + change.depthStep) bracket).Keeps (changes ++ [change]) := by
  have hbalance : log.depth + change.depthStep = balance (changes ++ [change]) := by
    rw [balance_append_singleton, hlog.depth]
  have hentries : (log.record position (log.depth + change.depthStep) bracket).entries =
      log.entries ++ [⟨position, log.depth + change.depthStep, bracket⟩] :=
    List.reverse_cons
  have hlength : log.entries.length = changes.length := by
    simpa using congrArg List.length hlog.recorded
  refine ⟨?_, ?_, hbalance⟩
  · rw [hentries, List.map_append, List.map_append, hlog.recorded, List.map_singleton,
      List.map_singleton, h]
  · intro i entry hentry
    rw [hentries] at hentry
    by_cases hi : i < log.entries.length
    · -- the changes up to an older entry are the same as before
      rw [List.getElem?_append_left hi] at hentry
      rw [List.take_append_of_le_length (by omega)]
      exact hlog.depths i entry hentry
    · -- the new entry is the last one, at the depth behind all changes
      have hlast := (List.getElem?_eq_some_iff.mp hentry).1
      rw [List.length_append, List.length_singleton] at hlast
      obtain rfl : i = log.entries.length := by omega
      rw [List.getElem?_concat_length] at hentry
      cases hentry
      rw [List.take_of_length_le (by simp [hlength]), hbalance]

/-! ## Commands and sequences of commands -/

/-- **One change.** A log keeps the changes since the last clearing. -/
theorem Keeps.apply (hlog : log.Keeps (sinceCleared changes)) (change : Change) :
    (log.apply change).Keeps (sinceCleared (changes ++ [change])) := by
  cases hrecorded : change.recorded? with
  | some entry =>
    obtain ⟨position, bracket⟩ := entry
    have hne : change ≠ .clearing := by
      rintro rfl
      cases hrecorded
    rw [apply_of_recorded? hrecorded, sinceCleared_append_of_ne hne]
    exact hlog.record hrecorded
  | none =>
    cases change with
    | clearing =>
      rw [sinceCleared_append_clearing]
      exact keeps_empty
    | _ => cases hrecorded

/-- **One command.** A question leaves the log as it is. -/
theorem Keeps.perform (hlog : log.Keeps (sinceCleared changes)) (command : Command) :
    (log.perform command).2.Keeps (sinceCleared (changes ++ command.change?.toList)) := by
  cases command with
  | change change => exact hlog.apply change
  | depth | unmatchedOpen =>
    rw [Command.change?, Option.toList_none, List.append_nil]
    exact hlog

/-- **Sequences of commands.** -/
theorem Keeps.after (hlog : log.Keeps (sinceCleared changes)) (commands : List Command) :
    (log.after commands).Keeps
      (sinceCleared (changes ++ commands.filterMap Command.change?)) := by
  induction commands generalizing log changes with
  | nil =>
    rw [List.filterMap_nil, List.append_nil]
    exact hlog
  | cons command rest ih =>
    have hchanges : (command :: rest).filterMap Command.change? =
        command.change?.toList ++ rest.filterMap Command.change? := by
      cases hchange : command.change? <;> simp [hchange]
    rw [hchanges, ← List.append_assoc]
    exact ih (hlog.perform command)

/-! ## Questions -/

/-- The depth of the log is that of its last entry, or zero. -/
theorem depth_eq_depth_getLast? (log : BracketLog) :
    log.depth = (log.entries.getLast?.map BracketEntry.depth).getD 0 := by
  rw [entries, List.getLast?_reverse, depth]
  cases log.newestFirst <;> rfl

/-- The search for an open bracket ends at the newest entry, if anything is open. -/
theorem exists_unmatchedOpen_of_depth_pos (h : 0 < log.depth) :
    ∃ entry, log.entries.getLast? = some entry ∧ log.unmatchedOpen = .ok entry.position := by
  obtain ⟨entry, older, hlog⟩ := exists_entry_of_depth_pos h
  refine ⟨entry, ?_, unmatchedOpen_of_depth_pos h hlog⟩
  rw [entries, List.getLast?_reverse, hlog]
  rfl

/-- No position of an open bracket is told exactly if none is open. -/
theorem unmatchedOpen_eq_error_iff :
    log.unmatchedOpen = .error e ↔ log.depth ≤ 0 ∧ e = .balanced := by
  by_cases hdepth : log.depth ≤ 0
  · rw [unmatchedOpen, if_pos hdepth]
    simp [hdepth, eq_comm]
  · obtain ⟨entry, -, hopen⟩ := exists_unmatchedOpen_of_depth_pos (Int.not_le.mp hdepth)
    rw [hopen]
    simp [hdepth]

/-- **Laws of bracket logs.** After any sequence of commands, a log keeps the changes since it was
last cleared, and its depth is that of its last entry. If no more levels were opened than closed
since then, it tells that nothing is open; otherwise it tells the position of its last entry. The
search for that position never fails, and neither question changes the log. -/
theorem keeps_after (commands : List Command) :
    let log := empty.after commands
    let changes := sinceCleared (commands.filterMap Command.change?)
    log.Keeps changes ∧
      log.depth = (log.entries.getLast?.map BracketEntry.depth).getD 0 ∧
      ((changes.countP Change.isOpening ≤ changes.countP Change.isClosing ∧
          ∃ reason, log.unmatchedOpen = .error reason ∧
            reason.message = "No unmatched '(' in the bracket log") ∨
        (changes.countP Change.isClosing < changes.countP Change.isOpening ∧
          ∃ entry, log.entries.getLast? = some entry ∧
            log.unmatchedOpen = .ok entry.position)) ∧
      log.unmatchedOpen ≠ .error .inconsistent ∧
      log.perform .depth = (.ok (.depth log.depth), log) ∧
      log.perform .unmatchedOpen = (log.unmatchedOpen.map .position, log) := by
  intro log changes
  have hempty : empty.Keeps (sinceCleared []) := keeps_empty
  -- the invariant of a log holds of the empty one, and each command keeps it
  have hkeeps : log.Keeps changes := hempty.after commands
  have hdepth : log.depth =
      (changes.countP Change.isOpening : Int) - changes.countP Change.isClosing := hkeeps.depth
  refine ⟨hkeeps, depth_eq_depth_getLast? log, ?_, ?_, rfl, rfl⟩
  · by_cases hopen : 0 < log.depth
    · -- more brackets were opened than closed, and the last entry is told
      exact .inr ⟨by omega, exists_unmatchedOpen_of_depth_pos hopen⟩
    · refine .inl ⟨by omega, .balanced, ?_, rfl⟩
      exact unmatchedOpen_eq_error_iff.mpr ⟨Int.not_lt.mp hopen, rfl⟩
  · intro hinconsistent
    cases (unmatchedOpen_eq_error_iff.mp hinconsistent).2

/-- A bracket that closes a level which was not open makes up for one that is opened later. -/
example : (empty.after [.change (.closing 7 .right), .change (.opening 2 .left)]).unmatchedOpen =
    .error .balanced := by
  decide

end ExprLex.BracketLog

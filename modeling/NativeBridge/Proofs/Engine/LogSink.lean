import Mathlib.Data.List.Forall2
import Mathlib.Data.List.Induction
import Mathlib.Data.List.Sort
import NativeBridge.Engine.LogSink
import NativeBridge.Proofs.Host.Request

/-!
# What becomes of the messages

A message is kept by the log if its units are a text and its level is at least the one in force
when it is written. Messages are taken in batches, and what is in the batches and still in the
log is what was kept: every call adds to it the message that it keeps and nothing else
(`flatten_append_records_answer`), so that a run of calls keeps the messages of its places in
order (`Accounts`).
-/

namespace NativeBridge.Engine

open NativeBridge.Host

/-- The level that a call sets. -/
def LogCall.minimum? : LogCall → Option LogLevel
  | setMinimum level => some level
  | _ => none

/-- The level in force after some calls: the one that was set last, at first `info`. -/
def minimumAfter (calls : List LogCall) : LogLevel :=
  (calls.filterMap LogCall.minimum?).getLast?.getD .info

/-- At this place stands a message to keep: it is written with a text in its units and a level
that is not below the one in force there. -/
inductive Keeps (calls : List LogCall) (place : Nat) : LogRecord → Prop where
  | written {level : LogLevel} {units : WideText} {text : String}
      (isCall : calls[place]? = some (.write level units)) (spells : units.Spells text)
      (enough : (minimumAfter (calls.take place)).rank ≤ level.rank) :
      Keeps calls place ⟨level, text⟩

/-- Some messages are those to keep at some places: all the places there are, in order, and one
message for each. -/
structure Accounts (calls : List LogCall) (places : List Nat) (records : List LogRecord) :
    Prop where
  inOrder : places.Pairwise (· < ·)
  complete : ∀ place, place ∈ places ↔ ∃ record, Keeps calls place record
  each : List.Forall₂ (Keeps calls) places records

/-- The message that a call adds to those kept, at the level in force. -/
def LogCall.kept? (minimum : LogLevel) : LogCall → Option LogRecord
  | write level text => LogSink.record? minimum level text
  | _ => none

namespace LogSink

/-- A message is kept if its units spell its text and its level is not below the minimum. -/
theorem record?_eq_some_iff {minimum level : LogLevel} {units : WideText} {record : LogRecord} :
    record? minimum level units = some record ↔
      units.Spells record.text ∧ record.level = level ∧ minimum.rank ≤ level.rank := by
  obtain ⟨recorded, text⟩ := record
  rw [record?, ← WideText.text?_eq_some_iff]
  cases units.text? with
  | none => simp
  | some read =>
      by_cases below : level.rank < minimum.rank
      · simp [below]
      · simp [below, Nat.le_of_not_lt below, and_comm, eq_comm]

/-- A call adds to what is taken and held the message that it keeps, and nothing else. -/
theorem getD_append_records_answer (sink : LogSink) (call : LogCall) :
    (sink.answer call).1.getD [] ++ (sink.answer call).2.records
      = sink.records ++ (call.kept? sink.minimum).toList := by
  cases call with
  | write level text => rfl
  | setMinimum level => exact (List.append_nil _).symm
  | take => rfl

/-- Calls are answered up to the last one and then that one. -/
theorem answerAll_append_singleton (sink : LogSink) (calls : List LogCall) (call : LogCall) :
    sink.answerAll (calls ++ [call])
      = ((sink.answerAll calls).1 ++ ((sink.answerAll calls).2.answer call).1.toList,
          ((sink.answerAll calls).2.answer call).2) := by
  induction calls generalizing sink with
  | nil => simp [answerAll]
  | cons first rest ih => simp only [List.cons_append, answerAll, ih, List.append_assoc]

/-- The level of the log is the one in force. -/
theorem minimum_answerAll (calls : List LogCall) :
    (fresh.answerAll calls).2.minimum = minimumAfter calls := by
  induction calls using List.reverseRecOn with
  | nil => rfl
  | append_singleton calls call ih =>
      rw [answerAll_append_singleton]
      cases call with
      | write level text => simpa [answer, write, minimumAfter, LogCall.minimum?] using ih
      | setMinimum level => simp [answer, setMinimum, minimumAfter, LogCall.minimum?]
      | take => simpa [answer, take, minimumAfter, LogCall.minimum?] using ih

end LogSink

section Keeps

variable {calls : List LogCall} {places : List Nat} {records : List LogRecord}

/-- Messages are kept at places of the run. -/
theorem Keeps.inside {place : Nat} {record : LogRecord} (keeps : Keeps calls place record) :
    place < calls.length := by
  cases keeps with
  | written isCall _ _ => exact (List.getElem?_eq_some_iff.mp isCall).1

/-- At most one message is kept at a place. -/
theorem Keeps.unique {place : Nat} {record other : LogRecord} (keeps : Keeps calls place record)
    (keepsOther : Keeps calls place other) : record = other := by
  cases keeps with
  | written isCall spells _ =>
      cases keepsOther with
      | written otherCall otherSpells _ =>
          obtain ⟨rfl, rfl⟩ : _ ∧ _ := by simpa using isCall.symm.trans otherCall
          have read := Host.WideText.text?_eq_some_iff.mpr spells
          rw [Host.WideText.text?_eq_some_iff.mpr otherSpells] at read
          rw [Option.some.inj read]

/-- What is kept at a place does not depend on later calls. -/
theorem keeps_append_iff {more : List LogCall} {place : Nat} {record : LogRecord}
    (before : place < calls.length) :
    Keeps (calls ++ more) place record ↔ Keeps calls place record := by
  have sameCall : (calls ++ more)[place]? = calls[place]? := List.getElem?_append_left before
  have sameBefore : (calls ++ more).take place = calls.take place :=
    List.take_append_of_le_length (Nat.le_of_lt before)
  constructor
  · rintro ⟨isCall, spells, enough⟩
    exact .written (sameCall ▸ isCall) spells (sameBefore ▸ enough)
  · rintro ⟨isCall, spells, enough⟩
    exact .written (sameCall.symm ▸ isCall) spells (sameBefore.symm ▸ enough)

/-- At the last place stands the message that the last call keeps. -/
theorem keeps_last_iff {call : LogCall} {record : LogRecord} :
    Keeps (calls ++ [call]) calls.length record ↔
      call.kept? (minimumAfter calls) = some record := by
  have isLast : (calls ++ [call])[calls.length]? = some call := by simp
  have before : (calls ++ [call]).take calls.length = calls := by simp
  constructor
  · rintro ⟨isCall, spells, enough⟩
    rw [isLast, Option.some.injEq] at isCall
    rw [before] at enough
    subst isCall
    exact LogSink.record?_eq_some_iff.mpr ⟨spells, rfl, enough⟩
  · intro kept
    cases call with
    | write level text =>
        obtain ⟨spells, rfl, enough⟩ := LogSink.record?_eq_some_iff.mp kept
        exact .written isLast spells (before.symm ▸ enough)
    | setMinimum level => cases kept
    | take => cases kept

/-- Before the last place nothing else is kept, and there it is what the last call keeps. -/
theorem exists_keeps_append_iff {call : LogCall} {place : Nat} :
    (∃ record, Keeps (calls ++ [call]) place record) ↔
      (∃ record, Keeps calls place record) ∨
        (place = calls.length ∧ (call.kept? (minimumAfter calls)).isSome = true) := by
  rw [Option.isSome_iff_exists]
  constructor
  · rintro ⟨record, keeps⟩
    have bound := keeps.inside
    rw [List.length_append, List.length_singleton] at bound
    rcases Nat.lt_or_eq_of_le (Nat.le_of_lt_succ bound) with before | rfl
    · exact .inl ⟨record, (keeps_append_iff before).mp keeps⟩
    · exact .inr ⟨rfl, record, keeps_last_iff.mp keeps⟩
  · rintro (⟨record, keeps⟩ | ⟨rfl, record, kept⟩)
    · exact ⟨record, (keeps_append_iff keeps.inside).mpr keeps⟩
    · exact ⟨record, keeps_last_iff.mpr kept⟩

/-- One more call adds the message that it keeps, at its own place. -/
theorem Accounts.next (accounts : Accounts calls places records) (call : LogCall) :
    ∃ next, Accounts (calls ++ [call]) next
      (records ++ (call.kept? (minimumAfter calls)).toList) := by
  have each : List.Forall₂ (Keeps (calls ++ [call])) places records :=
    accounts.each.imp fun _ _ keeps => (keeps_append_iff keeps.inside).mpr keeps
  cases kept : call.kept? (minimumAfter calls) with
  | none =>
      refine ⟨places, accounts.inOrder, fun place => ?_, ?_⟩
      · simp [exists_keeps_append_iff, kept, accounts.complete]
      · simpa using each
  | some record =>
      refine ⟨places ++ [calls.length], ?_, fun place => ?_, ?_⟩
      · refine List.pairwise_append.mpr ⟨accounts.inOrder, List.pairwise_singleton _ _, ?_⟩
        rintro place isPlace _ (_ | ⟨_, ⟨⟩⟩)
        obtain ⟨_, keeps⟩ := (accounts.complete place).mp isPlace
        exact keeps.inside
      · simp [exists_keeps_append_iff, kept, accounts.complete]
      · exact List.rel_append each (.cons (keeps_last_iff.mpr kept) .nil)

/-- Calls keep one sequence of messages only. -/
theorem Accounts.unique {otherPlaces : List Nat} {otherRecords : List LogRecord}
    (accounts : Accounts calls places records)
    (others : Accounts calls otherPlaces otherRecords) : records = otherRecords := by
  have samePlaces : places = otherPlaces :=
    accounts.inOrder.eq_of_mem_iff others.inOrder fun place =>
      (accounts.complete place).trans (others.complete place).symm
  subst samePlaces
  exact List.right_unique_forall₂' (fun _ _ _ keeps other => keeps.unique other) accounts.each
    others.each

end Keeps

namespace LogSink

/-- What is taken and held after some calls is what they keep. -/
theorem accounts_answerAll (calls : List LogCall) :
    ∃ places, Accounts calls places
      ((fresh.answerAll calls).1.flatten ++ (fresh.answerAll calls).2.records) := by
  induction calls using List.reverseRecOn with
  | nil =>
      refine ⟨[], .nil, fun place => ⟨fun isPlace => ?_, fun ⟨_, keeps⟩ => ?_⟩, .nil⟩
      · cases isPlace
      · exact absurd keeps.inside (Nat.not_lt_zero place)
  | append_singleton calls call ih =>
      obtain ⟨places, accounts⟩ := ih
      have added := getD_append_records_answer (fresh.answerAll calls).2 call
      have batch (taken : Option (List LogRecord)) : taken.toList.flatten = taken.getD [] := by
        cases taken <;> simp
      rw [answerAll_append_singleton, List.flatten_append, batch, List.append_assoc, added,
        minimum_answerAll, ← List.append_assoc]
      exact accounts.next call

/-- After any calls, the batches that were taken and then what is still held are exactly the
messages that the calls keep: the texts that were written at a level not below the one in force
there, in the order of their places, each once. -/
theorem taken_and_held_iff (calls : List LogCall) (records : List LogRecord) :
    (∃ places, Accounts calls places records) ↔
      records = (fresh.answerAll calls).1.flatten ++ (fresh.answerAll calls).2.records := by
  obtain ⟨places, accounts⟩ := accounts_answerAll calls
  constructor
  · rintro ⟨_, others⟩
    exact others.unique accounts
  · rintro rfl
    exact ⟨places, accounts⟩

/-- A higher minimum lets no earlier message go, and a lower one brings none back. -/
example :
    let hi : WideText := WideText.ofUnits [0x68, 0x69]
    let calls := [.write .info hi, .setMinimum .error, .write .warn hi, .take, .setMinimum .debug,
      .write .trace hi, .write .debug hi]
    (fresh.answerAll calls).1.flatten ++ (fresh.answerAll calls).2.records
      = [⟨.info, "hi"⟩, ⟨.debug, "hi"⟩] := by
  decide +kernel

end LogSink

end NativeBridge.Engine

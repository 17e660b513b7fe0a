import StateFlow.Proofs.Timestamp.Text
import StateFlow.Proofs.Wait

/-!
Clock readings read back. The text of a reading of whole milliseconds is exact up to a limit;
`text_reads_back` says that it is read as the reading again, so that no two readings share a text and
a wait for an instant that the clock has shown is over at once.
-/
namespace StateFlow

namespace Number

theorem toRat?_ofMillis_of_past {millis : Int} (past : millis ≤ 0) :
    (ofMillis millis).toRat? = some 0 := by
  have zero : ofMillis 0 = .real (.finite false 0 (-1074)) := by decide +kernel
  have same : ofMillis millis = ofMillis 0 := by rw [ofMillis, ofMillis, max_eq_left past, max_self]
  rw [same, zero]
  simp [toRat?, Binary64.toRat?, Binary64.magnitude]

end Number

namespace Execution

structure Awaits (execution : Execution) (state : State) (path : Json) (data input : Data)
    (text : String) : Prop where
  kind : state.kind = .wait (.timestampPath path)
  phase : execution.phase = .entered state data
  read : Path.applyTo data execution.context state.inputPath = .ok input
  found : Path.first input.value execution.context path = .ok (.str text)

theorem Awaits.resting {execution : Execution} {state : State} {path : Json} {data input : Data}
    {text : String} (awaits : execution.Awaits state path data input text) {now target : Int}
    (instant : Timestamp.millis (.str text) = .ok target) :
    execution.resting now = .sleeping state input (.ofMillis (target - now)) := by
  have lasts : (Delay.timestampPath path).duration state.name input.value execution.context now =
      .ok (.ofMillis (target - now)) :=
    bind_eq_ok.2 ⟨_, Delay.resolve_eq_ok.2 awaits.found,
      Delay.secondsUntil_eq_ok.2 ⟨target, instant, rfl⟩⟩
  exact (waited_of_lasts awaits.kind awaits.phase now awaits.read lasts rfl).1

end Execution

namespace Clock

structure IsExact (millis : Int) : Prop where
  nonneg : 0 ≤ millis
  within : millis ≤ exactLimit

theorem IsExact.isReal {millis : Int} (exact : IsExact millis) :
    (Timestamp.ofEpochMicros (1000 * millis)).IsReal := by
  have nonneg := exact.nonneg
  have within : millis ≤ 8589934592000 := exact.within
  have years := Date.year_ofDays (1000 * millis / 1000000 / 86400)
  simp only [Timestamp.ofEpochMicros]
  exact {
    year := by
      simp only
      omega
    date := Date.isReal_ofDays _
    hour := by
      simp only
      omega
    minute := by
      simp only
      omega
    second := by
      simp only
      omega
    micros := by
      simp only
      omega
    offset := show (0 : Int).natAbs < 1440 by decide }

theorem IsExact.text_eq {millis : Int} (exact : IsExact millis) :
    text millis = .ok (String.ofList (Timestamp.ofEpochMicros (1000 * millis)).text) := by
  have near : millis.natAbs ≤ exactLimit := by
    have nonneg := exact.nonneg
    have within := exact.within
    omega
  have year := exact.isReal.year
  rw [text, if_pos near, checkedText, if_neg (by omega), if_neg (by omega)]

theorem IsExact.millis_text {millis : Int} (exact : IsExact millis) {written : String}
    (same : text millis = .ok written) : Timestamp.millis (.str written) = .ok millis := by
  obtain rfl := Except.ok.inj (exact.text_eq.symm.trans same)
  have instant : (Timestamp.ofEpochMicros (1000 * millis)).epochMillis = millis := by
    rw [Timestamp.epochMillis, Timestamp.epochMicros_ofEpochMicros]
    omega
  rw [Timestamp.millis, Timestamp.parse_text exact.isReal]
  exact congrArg Except.ok instant

/-- A reading has a text, which is read as the reading and is that of no other one; the text has a
fraction exactly if the reading is no whole number of seconds. A wait for the instant that it writes
takes no time once the clock has come to the reading. -/
theorem text_reads_back {millis : Int} (exact : IsExact millis) :
    ∃ written, text millis = .ok written ∧ Timestamp.millis (.str written) = .ok millis ∧
      ('.' ∈ written.toList ↔ ¬ 1000 ∣ millis) ∧
      (∀ other, IsExact other → text other = .ok written → other = millis) ∧
      ∀ execution state path data input now,
        Execution.Awaits execution state path data input written → millis ≤ now →
          ∃ seconds, execution.resting now = .sleeping state input seconds ∧
            seconds.toRat? = some 0 := by
  have read := exact.millis_text exact.text_eq
  refine ⟨_, exact.text_eq, read, ?_, ?_, ?_⟩
  · rw [String.toList_ofList, Timestamp.point_mem_text_iff, Timestamp.ofEpochMicros]
    simp only
    omega
  · intro other exact' same
    exact Except.ok.inj ((exact'.millis_text same).symm.trans read)
  · intro execution state path data input now awaits past
    exact ⟨_, awaits.resting read, Number.toRat?_ofMillis_of_past (by omega)⟩

def untilState : State :=
  .base "A" (.obj [("Type", .str "Wait"), ("TimestampPath", .str "$"), ("End", .bool true)])
    (.wait (.timestampPath (.str "$")))

def untilMachine : Machine where
  name := "m"
  comment := .null
  startAt := "A"
  states := [untilState]

def untilWait (text : String) : Execution :=
  (Execution.start untilMachine "A" (.str text) 0).advance ⟨0, .proceed⟩

theorem awaits_untilWait (text : String) :
    (untilWait text).Awaits untilState (.str "$") (.ofJson (.str text)) (.ofJson (.str text))
      text where
  kind := rfl
  phase := rfl
  read := rfl
  found := rfl

theorem text_reads_back_with_fraction :
    IsExact 1600000000123 ∧ ∃ written, text 1600000000123 = .ok written ∧
      Timestamp.millis (.str written) = .ok 1600000000123 ∧ '.' ∈ written.toList ∧
      ∃ seconds, (untilWait written).resting 1600000000123 =
        .sleeping untilState (.ofJson (.str written)) seconds ∧ seconds.toRat? = some 0 := by
  have exact : IsExact 1600000000123 := ⟨by decide, by decide⟩
  obtain ⟨written, same, read, point, -, past⟩ := text_reads_back exact
  exact ⟨exact, written, same, read, point.2 (by decide),
    past _ _ _ _ _ _ (awaits_untilWait written) le_rfl⟩

end Clock

end StateFlow

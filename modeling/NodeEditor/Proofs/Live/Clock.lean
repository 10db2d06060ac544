import Mathlib
import NodeEditor.Live.Clock
import NodeEditor.Live.Timer

namespace NodeEditor

open Time

namespace Time.Moment

variable {m n : Moment}

-- A moment of the calendar; any second may be a leap second.
structure Represented (m : Moment) : Prop where
  day    : m.inCalendar
  second : m.second < 86400
  nano   : m.nano < 2 * nanosPerSecond

def Before (m n : Moment) : Prop :=
  m.day < n.day ∨ m.day = n.day ∧ (m.second < n.second ∨ m.second = n.second ∧ m.nano < n.nano)

-- A moment in a leap second at the end of a day, and one in the first second of the next day. The
-- two seconds count as one and the same.
def LeapsInto (m n : Moment) : Prop :=
  nanosPerSecond ≤ m.nano ∧ m.second = 86399 ∧ n.day = m.day + 1 ∧ n.second = 0

theorem nanosSince_neg (h : m.Before n) (hl : ¬m.LeapsInto n) (hm : m.Represented)
    (hn : n.Represented) : m.nanosSince n < 0 := by
  have := hm.second
  have := hm.nano
  have := hn.second
  have := hn.nano
  simp only [Before, LeapsInto, nanosSince, nanosPerSecond] at *
  omega

-- The calendar has less than 300000 years before and after its first day.
theorem Represented.natAbs_day_lt (h : m.Represented) : m.day.natAbs < 110000000 := by
  have hd := h.day
  simp only [inCalendar, Date.exists?, Bool.and_eq_true] at hd
  have hl := of_decide_eq_true hd.left.left.left.left.left
  have hu := of_decide_eq_true hd.left.left.left.left.right
  simp only [Date.ofDays, Date.firstYear, Date.lastYear] at hl hu
  omega

def timeOfDay (m : Moment) : Moment :=
  { m with day := 0 }

theorem nanosSince_eq : m.nanosSince n =
    (m.day - n.day) * 86400 * nanosPerSecond + m.timeOfDay.nanosSince n.timeOfDay := by
  simp only [nanosSince, timeOfDay, nanosPerSecond]
  omega

end Time.Moment

section Words

/-! Numbers as a machine has them. What does not fit is none. -/

def word? (bits n : Nat) : Option Nat :=
  if n < 2 ^ bits then some n else none

-- A time whose whole seconds fit.
def seconds? (bits nanos : Nat) : Option Nat :=
  if nanos / Moment.nanosPerSecond < 2 ^ bits then some nanos else none

-- A span of time in either direction, as far as its milliseconds fit into 64 bits.
def span? (nanos : Int) : Option Int :=
  if nanos.natAbs ≤ (2 ^ 63 - 1) * nanosPerMilli then some nanos else none

theorem word?_of_lt {bits n : Nat} (h : n < 2 ^ bits) : word? bits n = some n :=
  if_pos h

theorem seconds?_of_lt {bits nanos : Nat} (h : nanos < 2 ^ bits * Moment.nanosPerSecond) :
    seconds? bits nanos = some nanos :=
  if_pos <| Nat.div_lt_of_lt_mul <| Nat.mul_comm .. ▸ h

theorem span?_of_le {nanos : Int} (h : nanos.natAbs ≤ (2 ^ 63 - 1) * nanosPerMilli) :
    span? nanos = some nanos :=
  if_pos h

end Words

namespace Time.Moment

variable {m n : Moment}

-- The days between two moments and the rest are made spans by themselves and then added.
def spanSince? (m n : Moment) : Option Int := do
  let days ← span? ((m.day - n.day) * 86400 * nanosPerSecond)
  let rest ← span? (m.timeOfDay.nanosSince n.timeOfDay)
  span? (days + rest)

theorem Represented.natAbs_timeOfDay_le (hm : m.Represented) (hn : n.Represented) :
    (m.timeOfDay.nanosSince n.timeOfDay).natAbs ≤ 86402 * nanosPerSecond := by
  have := hm.second
  have := hm.nano
  have := hn.second
  have := hn.nano
  simp only [nanosSince, timeOfDay, nanosPerSecond] at *
  omega

theorem Represented.natAbs_days_le (hm : m.Represented) (hn : n.Represented) :
    ((m.day - n.day) * 86400 * nanosPerSecond).natAbs ≤ 2 ^ 45 * nanosPerSecond := by
  have := hm.natAbs_day_lt
  have := hn.natAbs_day_lt
  simp only [nanosPerSecond]
  omega

theorem Represented.natAbs_nanosSince_lt (hm : m.Represented) (hn : n.Represented) :
    (m.nanosSince n).natAbs < 2 ^ 46 * nanosPerSecond := by
  have hd := hm.natAbs_days_le hn
  have ht := hm.natAbs_timeOfDay_le hn
  rw [nanosSince_eq]
  simp only [nanosPerSecond] at *
  omega

theorem Represented.spanSince?_eq (hm : m.Represented) (hn : n.Represented) :
    m.spanSince? n = some (m.nanosSince n) := by
  have hd := hm.natAbs_days_le hn
  have ht := hm.natAbs_timeOfDay_le hn
  have hs := hm.natAbs_nanosSince_lt hn
  have hl : 2 ^ 46 * nanosPerSecond ≤ (2 ^ 63 - 1) * nanosPerMilli := by decide
  have hl' : 86402 * nanosPerSecond ≤ 2 ^ 46 * nanosPerSecond := by decide
  have hl'' : 2 ^ 45 * nanosPerSecond ≤ 2 ^ 46 * nanosPerSecond := by decide
  rw [nanosSince_eq] at hs ⊢
  rw [spanSince?, span?_of_le (hd.trans <| hl''.trans hl), Option.bind_eq_bind, Option.bind_some,
    span?_of_le (ht.trans <| hl'.trans hl), Option.bind_some, span?_of_le (hs.le.trans hl)]

end Time.Moment

namespace Countdown

variable {next now : Moment} {clock clock' e : Nat} {steps steps' more : List Nat}

-- The same in numbers that a machine has. A clock has 64 bits for its seconds, with a sign, a
-- length of time has 64 without one.

-- How long is left of a span. A span back in time leaves none.
def wait? (gap : Int) : Option Nat :=
  if gap < 0 then some 0 else seconds? 64 gap.toNat

def towards? (next now : Moment) (clock : Nat) : Option Countdown := do
  let gap ← next.spanSince? now
  let left ← wait? gap
  let deadline ← seconds? 63 (clock + left)
  some { deadline := deadline }

def remaining? (c : Countdown) (clock : Nat) : Option Nat := do
  let left ← seconds? 64 (c.deadline - clock)
  let millis ← word? 128 (left / nanosPerMilli)
  let rounded ← word? 128 (millis + 500)
  word? 64 (rounded / 1000)

-- What a countdown shows after the clock went on step by step.
def reading (next now : Moment) (clock : Nat) (steps : List Nat) : Nat :=
  (towards next now clock).remaining <| steps.foldl (· + ·) clock

theorem foldl_add_eq : steps.foldl (· + ·) clock = clock + steps.sum := by
  induction steps generalizing clock with
  | nil             => rfl
  | cons step _ ih  => rw [List.foldl_cons, ih, List.sum_cons, Nat.add_assoc]

-- Only the time that has passed counts.
theorem reading_eq : reading next now clock steps =
    (((next.nanosSince now).toNat - steps.sum) / nanosPerMilli + 500) / 1000 := by
  rw [reading, foldl_add_eq, remaining, towards, Nat.add_sub_add_left]

theorem reading_eq_zero_iff : reading next now clock steps = 0 ↔
    next.nanosSince now - steps.sum < (Moment.nanosPerSecond / 2 : Nat) := by
  simp only [reading_eq, nanosPerMilli, Moment.nanosPerSecond]
  omega

theorem deadline_towards_lt (hn : next.Represented) (hm : now.Represented)
    (hc : clock < 2 ^ 62 * Moment.nanosPerSecond) :
    (towards next now clock).deadline < 2 ^ 63 * Moment.nanosPerSecond := by
  have hg := hn.natAbs_nanosSince_lt hm
  simp only [towards, Moment.nanosPerSecond] at *
  omega

theorem wait?_eq {gap : Int} (h : gap.natAbs < 2 ^ 46 * Moment.nanosPerSecond) :
    wait? gap = some gap.toNat := by
  rw [wait?]
  split
  case isTrue hg  => rw [Int.toNat_of_nonpos hg.le]
  case isFalse hg =>
    refine seconds?_of_lt ?_
    simp only [Moment.nanosPerSecond] at *
    omega

theorem towards?_eq (hn : next.Represented) (hm : now.Represented)
    (hc : clock < 2 ^ 62 * Moment.nanosPerSecond) :
    towards? next now clock = some (towards next now clock) := by
  have hd : clock + (next.nanosSince now).toNat < _ := deadline_towards_lt hn hm hc
  simp only [towards?, Option.bind_eq_bind, hn.spanSince?_eq hm, Option.bind_some,
    wait?_eq <| hn.natAbs_nanosSince_lt hm, seconds?_of_lt hd]
  rfl

theorem remaining?_eq {c : Countdown} (h : c.deadline < 2 ^ 63 * Moment.nanosPerSecond) :
    c.remaining? e = some (c.remaining e) := by
  have hl : c.deadline - e < 2 ^ 63 * Moment.nanosPerSecond := (Nat.sub_le ..).trans_lt h
  have hm : (c.deadline - e) / nanosPerMilli < 2 ^ 73 := by
    simp only [Moment.nanosPerSecond, nanosPerMilli] at *
    omega
  rw [remaining?, seconds?_of_lt (hl.trans <| by decide), Option.bind_eq_bind, Option.bind_some,
    word?_of_lt (hm.trans <| by decide), Option.bind_some, word?_of_lt (by omega), Option.bind_some,
    word?_of_lt (by simp only [Moment.nanosPerSecond, nanosPerMilli] at *; omega)]
  rfl

-- What a countdown to a moment shows, from another moment on.
structure Descends (next now : Moment) : Prop where
  elapsed    : ∀ clock clock' steps steps', steps.sum = steps'.sum →
    reading next now clock steps = reading next now clock' steps'
  second     : ∀ clock steps, (reading next now clock (steps ++ [Moment.nanosPerSecond]) : Int) =
    max (reading next now clock steps - 1) 0
  decreasing : ∀ clock steps more,
    reading next now clock (steps ++ more) ≤ reading next now clock steps
  zero_iff   : ∀ clock steps, reading next now clock steps = 0 ↔
    next.nanosSince now - steps.sum < (Moment.nanosPerSecond / 2 : Nat)
  past       : next.Represented → now.Represented → next.Before now → ¬next.LeapsInto now →
    ∀ clock steps, reading next now clock steps = 0
  -- The clock starts anywhere in the first half of its range.
  fits       : next.Represented → now.Represented →
    ∀ clock < 2 ^ 62 * Moment.nanosPerSecond, ∃ c, towards? next now clock = some c ∧
      ∀ steps, c.remaining? (steps.foldl (· + ·) clock) = some (reading next now clock steps)

-- A countdown drops by one with every second down to zero, and nothing on the way is too large for
-- a machine. Between two moments that are the wrong way round it is zero, if the first one is not
-- in a leap second that the second one counts as its own.
theorem countdown_descends (next now : Moment) : Descends next now where
  elapsed clock clock' steps steps' h := by
    rw [reading_eq, reading_eq, h]
  second clock steps     := by
    simp only [reading_eq, List.sum_append_nat, List.sum_singleton, Moment.nanosPerSecond,
      nanosPerMilli]
    omega
  decreasing clock steps more := by
    simp only [reading_eq, List.sum_append_nat, nanosPerMilli]
    omega
  zero_iff clock steps   := reading_eq_zero_iff
  past hn hm hb hl clock steps := by
    have hg := Moment.nanosSince_neg hb hl hn hm
    rw [reading_eq_zero_iff]
    simp only [Moment.nanosPerSecond]
    omega
  fits hn hm clock hc    :=
    ⟨_, towards?_eq hn hm hc, fun _ => remaining?_eq <| deadline_towards_lt hn hm hc⟩

-- The last midnight of 2016, which a leap second came before.

def newYear : Moment where
  day    := 17167
  second := 0
  nano   := 0

theorem newYear_represented : newYear.Represented :=
  ⟨by decide +kernel, by decide, by decide⟩

-- Two and a half seconds later.
def timerDue : Moment :=
  { newYear with second := 2, nano := 500000000 }

theorem timerDue_represented : timerDue.Represented :=
  ⟨by decide +kernel, by decide, by decide⟩

theorem countdown_descends_newYear : timerDue.Represented ∧ newYear.Represented ∧
    reading timerDue newYear 0 [] = 3 ∧ reading timerDue newYear 0 [Moment.nanosPerSecond] = 2 ∧
    newYear.Before timerDue ∧ reading newYear timerDue 0 [] = 0 := by
  have hs := (countdown_descends timerDue newYear).second 0 []
  have hr : reading timerDue newYear 0 [] = 3 := by decide
  rw [hr] at hs
  have hb : newYear.Before timerDue := .inr ⟨rfl, .inl <| by decide⟩
  have hz := (countdown_descends newYear timerDue).past newYear_represented timerDue_represented hb
    (fun hl => absurd hl.left <| by decide) 0 []
  exact ⟨timerDue_represented, newYear_represented, hr, by exact_mod_cast hs, hb, hz⟩

-- Behind seven tenths of the leap second that comes before it, two tenths of the new year are
-- over. The leap second is past, and yet it is counted down to.
theorem leap_second_counted_down :
    ∃ next now, readTimeStamp (.str "2016-12-31T23:59:60.7Z") = .ok next ∧
      readTimeStamp (.str "2017-01-01T00:00:00.2Z") = .ok now ∧
      next.Represented ∧ now.Represented ∧ next.Before now ∧ reading next now 0 [] = 1 := by
  refine ⟨⟨17166, 86399, 1700000000⟩, { newYear with nano := 200000000 }, rfl, rfl, ?_⟩
  exact ⟨⟨by decide +kernel, by decide, by decide⟩, ⟨by decide +kernel, by decide, by decide⟩,
    .inl <| by decide, by decide⟩

end Countdown

end NodeEditor

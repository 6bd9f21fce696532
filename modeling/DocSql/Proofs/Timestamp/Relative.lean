import DocSql.Proofs.Number.IntegerText
import DocSql.Proofs.Refusals
import Mathlib.Data.List.Infix

/-!
Relative instants. What is said is a direction and a list of spans, and it
comes to the sum of the spans from the given instant, or to an error where one
of the numbers on the way there has no place. Main statement:
`Timestamp.Relative.resolve_exact`.
-/
namespace DocSql.Timestamp

open Number (WritesInt fitsInt64 maxInt64)

/-- Whole seconds from one instant to another. Only the leap seconds that the two
instants are in count: that of the earlier one lies on the way to the later one,
which is in its own still. -/
def wholeSeconds (a b : Timestamp) : Int :=
  if a.seconds < b.seconds then b.seconds - a.seconds + (a.nanos / leapNanos : Nat)
  else if b.seconds < a.seconds then b.seconds - a.seconds - (b.nanos / leapNanos : Nat)
  else 0

def elapsedNanos (a b : Timestamp) : Int := wholeSeconds a b * leapNanos + (b.nanos - a.nanos)

/-- The instant of the calendar that comes a number of seconds later, outside
any leap second but the one that both are in. -/
structure IsLater (t : Timestamp) (seconds : Int) (u : Timestamp) : Prop where
  elapsed : t.elapsedNanos u = seconds * leapNanos
  settled : u = t ∨ u.nanos < leapNanos
  inRange : u.inRange = true

section

variable {t u : Timestamp} {seconds : Int}

def moved (t : Timestamp) (seconds : Int) : Timestamp :=
  if t.nanos < leapNanos ∨ seconds = 0 then ⟨t.seconds + seconds, t.nanos⟩
  else if 0 < seconds then ⟨t.seconds + seconds, t.nanos - leapNanos⟩
  else ⟨t.seconds + 1 + seconds, t.nanos - leapNanos⟩

theorem eq_moved_iff (ht : t.nanos < 2 * leapNanos) : u = t.moved seconds ↔
    t.elapsedNanos u = seconds * leapNanos ∧ (u = t ∨ u.nanos < leapNanos) := by
  obtain ⟨s, n⟩ := t
  obtain ⟨s', n'⟩ := u
  unfold moved elapsedNanos wholeSeconds
  unfold leapNanos at *
  dsimp only at *
  split_ifs <;> rw [Timestamp.mk.injEq, Timestamp.mk.injEq] <;> omega

theorem addSeconds?_eq_some_iff (ht : t.nanos < 2 * leapNanos) :
    t.addSeconds? seconds = some u ↔ t.IsLater seconds u := by
  have hadd : t.addSeconds? seconds =
      if (t.moved seconds).inRange then some (t.moved seconds) else none := rfl
  rw [hadd, Option.ite_none_right_eq_some, Option.some_inj]
  constructor
  · rintro ⟨hrange, rfl⟩
    obtain ⟨helapsed, hsettled⟩ := (eq_moved_iff ht).1 rfl
    exact ⟨helapsed, hsettled, hrange⟩
  · intro h
    have hu := (eq_moved_iff ht).2 ⟨h.elapsed, h.settled⟩
    rw [← hu]
    exact ⟨h.inRange, rfl⟩

end

namespace Relative

def units : List (List String × Int) :=
  [(["yr", "yrs", "year", "years"], 365 * 86400), (["wk", "wks", "week", "weeks"], 7 * 86400),
    (["d", "day", "days"], 86400), (["hr", "hrs", "hour", "hours"], 3600),
    (["min", "mins", "minute", "minutes"], 60), (["sec", "secs", "second", "seconds"], 1)]

theorem unitSeconds?_eq_some_iff {unit : String} {size : Int} :
    unitSeconds? unit = some size ↔ ∃ names, unit ∈ names ∧ (names, size) ∈ units := by
  have hlengths : ∀ entry ∈ units, ∀ unit ∈ entry.1, unitSeconds? unit = some entry.2 := by decide
  constructor
  · intro h
    unfold unitSeconds? at h
    split at h <;> cases h <;> simp [units]
  · rintro ⟨names, hunit, hnames⟩
    exact hlengths _ hnames unit hunit

/-- An amount and its unit, as they are said and as they are meant. -/
structure Span where
  amount : String
  unit : String
  count : Int
  size : Int
  amount_writes : WritesInt amount.toList count
  amount_fits : fitsInt64 count = true
  unit_names : ∃ names, unit ∈ names ∧ (names, size) ∈ units

namespace Span

def words (span : Span) : List String := [span.amount, span.unit]

def seconds (span : Span) : Int := span.count * span.size

theorem amount_read (span : Span) : Number.int64OfText? span.amount = some span.count :=
  Number.int64OfText?_eq_some_iff.2 ⟨span.amount_writes, span.amount_fits⟩

theorem unit_read (span : Span) : unitSeconds? span.unit = some span.size :=
  unitSeconds?_eq_some_iff.2 span.unit_names

end Span

def phrase (future : Bool) (spans : List Span) : List String :=
  if future then "in" :: spans.flatMap Span.words else spans.flatMap Span.words ++ ["ago"]

def saidWords (text : String) : List String :=
  (Text.words (Text.lower text.toList)).map String.ofList

def total : List Span → Int
  | [] => 0
  | span :: spans => span.seconds + total spans

/-- All products and all sums from left to right, from a first one on, have 64 bits. -/
structure FitsFrom (sum : Int) (spans : List Span) : Prop where
  products : ∀ span ∈ spans, fitsInt64 span.seconds = true
  sums : ∀ part, part <+: spans → fitsInt64 (sum + total part) = true

/-- All numbers that are met have a place: 64 bits for products and sums, and
milliseconds in 64 bits for the duration. -/
structure Fits (spans : List Span) : Prop extends FitsFrom 0 spans where
  duration : (total spans * 1000).natAbs ≤ maxInt64

variable {sum : Int} {span : Span} {spans : List Span} {future : Bool}

@[simp] theorem total_nil : total [] = 0 := rfl

theorem total_cons (span : Span) (spans : List Span) :
    total (span :: spans) = span.seconds + total spans := rfl

theorem fitsFrom_nil (hsum : fitsInt64 sum = true) : FitsFrom sum [] := by
  refine ⟨List.forall_mem_nil _, fun part hpart => ?_⟩
  rwa [List.prefix_nil.1 hpart, total_nil, Int.add_zero]

theorem fitsFrom_cons_iff (hsum : fitsInt64 sum = true) : FitsFrom sum (span :: spans) ↔
    fitsInt64 span.seconds = true ∧ FitsFrom (sum + span.seconds) spans := by
  constructor
  · intro h
    obtain ⟨hfirst, hproducts⟩ := List.forall_mem_cons.1 h.products
    refine ⟨hfirst, hproducts, fun part hpart => ?_⟩
    have hlonger := h.sums (span :: part) ((List.prefix_cons_inj span).2 hpart)
    rwa [total_cons, ← Int.add_assoc] at hlonger
  · rintro ⟨hfirst, h⟩
    refine ⟨List.forall_mem_cons.2 ⟨hfirst, h.products⟩, fun part hpart => ?_⟩
    rcases List.prefix_cons_iff.1 hpart with rfl | ⟨rest, rfl, hrest⟩
    · rwa [total_nil, Int.add_zero]
    · rw [total_cons, ← Int.add_assoc]
      exact h.sums rest hrest

theorem addPairs_span (sum : Int) (span : Span) (words : List String) :
    addPairs sum (span.words ++ words) =
      if fitsInt64 span.seconds && fitsInt64 (sum + span.seconds) then
        addPairs (sum + span.seconds) words
      else .error outOfRange := by
  change addPairs sum (span.amount :: span.unit :: words) = _
  rw [addPairs, span.amount_read, span.unit_read]
  rfl

theorem addPairs_spans (hsum : fitsInt64 sum = true) (spans : List Span) :
    (FitsFrom sum spans → addPairs sum (spans.flatMap Span.words) = .ok (sum + total spans)) ∧
    (¬ FitsFrom sum spans → addPairs sum (spans.flatMap Span.words) = .error outOfRange) := by
  induction spans generalizing sum with
  | nil =>
    rw [total_nil, Int.add_zero]
    exact ⟨fun _ => rfl, fun h => absurd (fitsFrom_nil hsum) h⟩
  | cons span spans ih =>
    rw [List.flatMap_cons, addPairs_span, fitsFrom_cons_iff hsum, total_cons, ← Int.add_assoc]
    by_cases hfirst : fitsInt64 span.seconds = true
    · by_cases hnext : fitsInt64 (sum + span.seconds) = true
      · rw [hfirst, hnext, Bool.and_self, if_pos rfl]
        exact (ih hnext).imp (fun h hfits => h hfits.2) fun h hnot => h fun hfits => hnot ⟨rfl, hfits⟩
      · have hnone : ¬ FitsFrom (sum + span.seconds) spans := fun h => by
          have hstart := h.sums [] List.nil_prefix
          rw [total_nil, Int.add_zero] at hstart
          exact hnext hstart
        rw [if_neg (by simp [hnext])]
        exact ⟨fun h => absurd h.2 hnone, fun _ => rfl⟩
    · rw [if_neg (by simp [hfirst])]
      exact ⟨fun h => absurd h.1 hfirst, fun _ => rfl⟩

theorem addPairs_reads (sum : Int) (words : List String) :
    (∀ n, addPairs sum words = .ok n → ∃ spans : List Span, words = spans.flatMap Span.words) ∧
    ∀ e, addPairs sum words = .error e → ∃ info, e = invalid info := by
  fun_induction addPairs sum words with
  | case1 sum =>
    refine ⟨fun n _ => ⟨[], rfl⟩, fun e he => ?_⟩
    cases he
  | case3 sum amount unit rest count hamount size hunit hfits ih =>
    refine ⟨fun n hn => ?_, ih.2⟩
    obtain ⟨spans, rfl⟩ := ih.1 n hn
    obtain ⟨hwrites, hcount⟩ := Number.int64OfText?_eq_some_iff.1 hamount
    have hnames := unitSeconds?_eq_some_iff.1 hunit
    exact ⟨⟨amount, unit, count, size, hwrites, hcount, hnames⟩ :: spans, rfl⟩
  | case2 | case4 | case5 | case6 =>
    refine ⟨fun n hn => ?_, fun e he => ⟨_, (Except.error.inj he).symm⟩⟩
    cases hn

theorem length_flatMap_words (spans : List Span) :
    (spans.flatMap Span.words).length = 2 * spans.length := by
  induction spans with
  | nil => rfl
  | cons span spans ih =>
    rw [List.flatMap_cons, List.length_append, ih, List.length_cons]
    change 2 + 2 * spans.length = _
    omega

def directed (future : Bool) (seconds : Int) : Int := if future then seconds else -seconds

variable {now : Timestamp}

theorem fits_iff : Fits spans ↔ FitsFrom 0 spans ∧ ¬ maxSpan < (total spans).natAbs := by
  have hspan : (total spans * 1000).natAbs ≤ maxInt64 ↔ ¬ maxSpan < (total spans).natAbs := by
    rw [Int.natAbs_mul, show (1000 : Int).natAbs = 1000 from rfl]
    unfold maxSpan maxInt64
    omega
  rw [← hspan]
  exact ⟨fun h => ⟨h.toFitsFrom, h.duration⟩, fun h => ⟨h.1, h.2⟩⟩

def reach (now : Timestamp) (future : Bool) (seconds : Int) : Except Error Timestamp :=
  if maxSpan < seconds.natAbs then .error outOfRange
  else match now.addSeconds? (directed future seconds) with
    | some t => .ok t
    | none => .error outOfRange

theorem reach_error {seconds : Int} {e : Error} (h : reach now future seconds = .error e) :
    e = outOfRange := by
  unfold reach at h
  split at h
  next => exact (Except.error.inj h).symm
  next =>
    split at h
    next => cases h
    next => exact (Except.error.inj h).symm

theorem shift_eq (now : Timestamp) (future : Bool) (words : List String) :
    shift now future words =
      if words.length % 2 ≠ 0 then
        .error (invalid "Invalid time string. Dangling unit or number.")
      else addPairs 0 words >>= reach now future := by
  unfold shift
  by_cases hodd : words.length % 2 ≠ 0
  · rw [if_pos hodd, if_pos hodd]
    rfl
  · rw [if_neg hodd, if_neg hodd]
    cases addPairs 0 words with
    | error e => rfl
    | ok seconds =>
      change (if _ then _ else _) = reach now future seconds
      unfold reach
      by_cases hspan : maxSpan < seconds.natAbs
      · rw [if_pos hspan, if_pos hspan]
        rfl
      · rw [if_neg hspan, if_neg hspan]
        rfl

theorem shift_spans (hnow : now.nanos < 2 * leapNanos) (future : Bool) (spans : List Span) :
    (∀ t, shift now future (spans.flatMap Span.words) = .ok t ↔
      Fits spans ∧ now.IsLater (directed future (total spans)) t) ∧
    ∀ e, shift now future (spans.flatMap Span.words) = .error e → e = outOfRange := by
  have heven : ¬ (spans.flatMap Span.words).length % 2 ≠ 0 := by
    rw [length_flatMap_words]
    omega
  obtain ⟨hok, herror⟩ := addPairs_spans (show fitsInt64 0 = true by decide) spans
  rw [shift_eq, if_neg heven, fits_iff]
  by_cases hsums : FitsFrom 0 spans
  · rw [hok hsums, Int.zero_add]
    refine ⟨fun t => ?_, fun e => reach_error⟩
    change reach now future (total spans) = .ok t ↔ _
    rw [← addSeconds?_eq_some_iff hnow]
    unfold reach
    by_cases hspan : maxSpan < (total spans).natAbs
    · rw [if_pos hspan]
      exact iff_of_false nofun fun h => h.1.2 hspan
    · rw [if_neg hspan]
      cases now.addSeconds? (directed future (total spans)) with
      | none => exact iff_of_false nofun fun h => nomatch h.2
      | some u =>
        rw [Option.some_inj]
        exact ⟨fun h => ⟨⟨hsums, hspan⟩, Except.ok.inj h⟩, fun h => congrArg Except.ok h.2⟩
  · rw [herror hsums]
    exact ⟨fun t => iff_of_false nofun fun h => hsums h.1.1, fun e he => (Except.error.inj he).symm⟩

theorem shift_reads (now : Timestamp) (future : Bool) (words : List String) :
    (∀ t, shift now future words = .ok t → ∃ spans : List Span, words = spans.flatMap Span.words) ∧
    ∀ e, shift now future words = .error e → ∃ info, e = invalid info := by
  obtain ⟨hsum, hblame⟩ := addPairs_reads 0 words
  rw [shift_eq]
  split
  next => exact ⟨nofun, fun e he => ⟨_, (Except.error.inj he).symm⟩⟩
  next =>
    constructor
    · intro t ht
      obtain ⟨seconds, hseconds, -⟩ := bind_eq_ok.1 ht
      exact hsum seconds hseconds
    · intro e he
      rcases bind_eq_error.1 he with hpairs | ⟨seconds, -, hreach⟩
      · exact hblame e hpairs
      · exact ⟨_, reach_error hreach⟩

namespace Span

theorem amount_ne_in (span : Span) : span.amount ≠ "in" := by
  intro h
  have hread := span.amount_read
  rw [h, show Number.int64OfText? "in" = none by decide] at hread
  cases hread

theorem unit_ne_ago (span : Span) : span.unit ≠ "ago" := by
  intro h
  have hread := span.unit_read
  rw [h] at hread
  cases hread

end Span

theorem phrase_head? : (phrase future spans).head? = some "in" ↔ future = true := by
  cases future with
  | true => exact iff_of_true rfl rfl
  | false =>
    refine iff_of_false ?_ Bool.false_ne_true
    cases spans with
    | nil => decide
    | cons span spans => exact fun h => span.amount_ne_in (Option.some.inj h)

theorem phrase_getLast? : (phrase future spans).getLast? = some "ago" ↔ future = false := by
  cases future with
  | false => exact iff_of_true List.getLast?_concat rfl
  | true =>
    refine iff_of_false ?_ Bool.true_eq_false.mp
    rcases spans.eq_nil_or_concat' with rfl | ⟨before, last, rfl⟩
    · decide
    · have hwords : phrase true (before ++ [last]) =
          ("in" :: before.flatMap Span.words ++ [last.amount]) ++ [last.unit] := by
        simp [phrase, Span.words]
      rw [hwords, List.getLast?_concat]
      exact fun h => last.unit_ne_ago (Option.some.inj h)

theorem resolve_eq (now : Timestamp) (text : String) : resolve now text =
    if saidWords text = ["now"] then .ok now
    else match (saidWords text).head? == some "in", (saidWords text).getLast? == some "ago" with
      | false, false => .error (invalid "Time should either start with 'in' or end with 'ago'")
      | true, true => .error (invalid "Time cannot have both 'in' and 'ago'")
      | true, false => shift now true (saidWords text).tail
      | false, true => shift now false (saidWords text).dropLast := rfl

theorem phrase_ne_now : phrase future spans ≠ ["now"] := by
  intro h
  cases future with
  | true =>
    have hhead : (phrase true spans).head? = some "in" := phrase_head?.2 rfl
    rw [h] at hhead
    exact absurd hhead (by decide)
  | false =>
    have hlast : (phrase false spans).getLast? = some "ago" := phrase_getLast?.2 rfl
    rw [h] at hlast
    exact absurd hlast (by decide)

theorem resolve_phrase {text : String} (h : saidWords text = phrase future spans) :
    resolve now text = shift now future (spans.flatMap Span.words) := by
  have hhead : ((phrase future spans).head? == some "in") = future := by
    rw [Bool.eq_iff_iff, beq_iff_eq, phrase_head?]
  have hlast : ((phrase future spans).getLast? == some "ago") = !future := by
    rw [Bool.eq_iff_iff, beq_iff_eq, phrase_getLast?, Bool.not_eq_true']
  rw [resolve_eq, h, if_neg phrase_ne_now, hhead, hlast]
  cases future with
  | true => rfl
  | false => exact congrArg (shift now false) List.dropLast_concat

theorem resolve_reads (now : Timestamp) (text : String) :
    (∀ t, resolve now text = .ok t → (saidWords text = ["now"] ∧ t = now) ∨
      ∃ future spans, saidWords text = phrase future spans) ∧
    ∀ e, resolve now text = .error e → ∃ info, e = invalid info := by
  rw [resolve_eq]
  split
  next h => exact ⟨fun t ht => .inl ⟨h, (Except.ok.inj ht).symm⟩, nofun⟩
  next =>
    split
    next => exact ⟨nofun, fun e he => ⟨_, (Except.error.inj he).symm⟩⟩
    next => exact ⟨nofun, fun e he => ⟨_, (Except.error.inj he).symm⟩⟩
    next hhead _ =>
      obtain ⟨hspans, hblame⟩ := shift_reads now true (saidWords text).tail
      refine ⟨fun t ht => .inr ?_, hblame⟩
      obtain ⟨spans, htail⟩ := hspans t ht
      obtain ⟨rest, hrest⟩ := List.head?_eq_some_iff.1 (beq_iff_eq.1 hhead)
      refine ⟨true, spans, ?_⟩
      rw [hrest] at htail ⊢
      exact congrArg ("in" :: ·) htail
    next hlast =>
      obtain ⟨hspans, hblame⟩ := shift_reads now false (saidWords text).dropLast
      refine ⟨fun t ht => .inr ?_, hblame⟩
      obtain ⟨spans, hbefore⟩ := hspans t ht
      refine ⟨false, spans, ?_⟩
      have hwords := List.dropLast_append_getLast? "ago" (beq_iff_eq.1 hlast)
      rw [hbefore] at hwords
      exact hwords.symm

/-- A text is accepted only where its words are `now`, or `in` and spans, or
spans and `ago`. It then stands for the instant that is the sum of the spans
later or earlier, no more and no less, just where all products, all sums from
left to right, the duration and the instant have a place, and it is out of range
everywhere else. No failure but that of an invalid query comes up. -/
theorem resolve_exact (now : Timestamp) (hnow : now.nanos < 2 * leapNanos) (text : String) :
    (∀ t, resolve now text = .ok t → (saidWords text = ["now"] ∧ t = now) ∨
      ∃ future spans, saidWords text = phrase future spans) ∧
    (saidWords text = ["now"] → resolve now text = .ok now) ∧
    (∀ future spans, saidWords text = phrase future spans →
      (∀ t, resolve now text = .ok t ↔
        Fits spans ∧ now.IsLater (directed future (total spans)) t) ∧
      ∀ e, resolve now text = .error e → e = outOfRange) ∧
    ∀ e, resolve now text = .error e → ∃ info, e = .invalidQuery info := by
  obtain ⟨hreads, hblame⟩ := resolve_reads now text
  refine ⟨hreads, fun h => ?_, fun future spans h => ?_, fun e he => ?_⟩
  · rw [resolve_eq, if_pos h]
  · rw [resolve_phrase h]
    exact shift_spans hnow future spans
  · obtain ⟨info, rfl⟩ := hblame e he
    exact ⟨_, rfl⟩

/-- Two days less an hour, from a leap second on, and an amount of years that has
64 bits while its seconds do not. -/
theorem forty_seven_hours_resolved :
    let now : Timestamp := ⟨1483228799, 1500000000⟩
    let spans : List Span := [
      ⟨"2", "days", 2, 86400, .unsigned (by decide) (List.all_eq_true.1 rfl), rfl,
        ["d", "day", "days"], by decide, by decide⟩,
      ⟨"-1", "hour", -1, 3600, .minus (by decide) (List.all_eq_true.1 rfl), rfl,
        ["hr", "hrs", "hour", "hours"], by decide, by decide⟩]
    let years : Span := ⟨"9223372036854775807", "years", 9223372036854775807, 31536000,
      .unsigned (by decide) (List.all_eq_true.1 rfl), rfl,
      ["yr", "yrs", "year", "years"], by decide, by decide⟩
    saidWords " In 2 Days -1 hour" = phrase true spans ∧
    resolve now " In 2 Days -1 hour" = .ok ⟨1483397999, 500000000⟩ ∧
    saidWords "9223372036854775807 years ago" = phrase false [years] ∧
    resolve now "9223372036854775807 years ago" = .error outOfRange := by
  intro now spans years
  have hnow : now.nanos < 2 * leapNanos := by decide
  have hsaid : saidWords " In 2 Days -1 hour" = phrase true spans := by decide +kernel
  have hyears : saidWords "9223372036854775807 years ago" = phrase false [years] := by
    decide +kernel
  refine ⟨hsaid, ?_, hyears, ?_⟩
  · obtain ⟨-, -, hspans, -⟩ := resolve_exact now hnow " In 2 Days -1 hour"
    have hsums : FitsFrom 0 spans := (fitsFrom_cons_iff (by decide)).2
      ⟨by decide, (fitsFrom_cons_iff (by decide)).2 ⟨by decide, fitsFrom_nil (by decide)⟩⟩
    exact ((hspans true spans hsaid).1 _).2 ⟨⟨hsums, by decide⟩, by decide, .inr (by decide), by decide⟩
  · obtain ⟨-, -, hspans, -⟩ := resolve_exact now hnow "9223372036854775807 years ago"
    obtain ⟨hok, herror⟩ := hspans false [years] hyears
    cases hresolve : resolve now "9223372036854775807 years ago" with
    | error e => rw [herror e hresolve]
    | ok t =>
      have hfits := ((hok t).1 hresolve).1.products years List.mem_cons_self
      exact absurd hfits (by decide)

end Relative
end DocSql.Timestamp

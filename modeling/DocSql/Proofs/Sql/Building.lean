import DocSql.Proofs.Sql.Binding
import Mathlib.Data.List.Intervals
import Mathlib.Data.List.Induction

/-!
What one builder comes to over any sequence of calls. Counting markers and
numbering them are two walks over the template; both are compared here with one
account of which characters stand outside quotes, so they cannot come apart.
Main statement: `Builder.run_invariant`.
-/
namespace DocSql.Sql

/-- No quote is open behind the text: what a quote opens runs to the next quote
of its kind. -/
inductive Unquoted : List Char → Prop
  | nil : Unquoted []
  | plain {text : List Char} {c : Char} (h : Unquoted text) (hc : ¬isQuote c) :
    Unquoted (text ++ [c])
  | quoted {text body : List Char} {quote : Char} (h : Unquoted text) (hq : isQuote quote)
    (hb : quote ∉ body) : Unquoted (text ++ (quote :: body ++ [quote]))

theorem quoteAfter_plainChar {c : Char} (hc : ¬isQuote c) : quoteAfter none c = none :=
  if_neg hc

theorem foldl_body {quote : Char} {body : List Char} (h : quote ∉ body) :
    body.foldl quoteAfter (some quote) = some quote := by
  induction body with
  | nil => rfl
  | cons c rest ih =>
    obtain ⟨hc, hrest⟩ := List.ne_and_not_mem_of_not_mem_cons h
    rw [List.foldl_cons, quoteAfter_other hc.symm, ih hrest]

/-- What a walk knows of a text when it comes to its end inside a quote or outside. -/
inductive EndsInside (text : List Char) : Option Char → Prop
  | none (h : Unquoted text) : EndsInside text none
  | some {before body : List Char} {quote : Char} (h : Unquoted before) (hq : isQuote quote)
    (hb : quote ∉ body) (ht : text = before ++ quote :: body) : EndsInside text (some quote)

theorem EndsInside.step {text : List Char} {inside : Option Char} (h : EndsInside text inside)
    (c : Char) : EndsInside (text ++ [c]) (quoteAfter inside c) := by
  cases h with
  | none h =>
    by_cases hc : isQuote c
    · rw [quoteAfter_quote hc]
      exact .some h hc List.not_mem_nil rfl
    · rw [quoteAfter_plainChar hc]
      exact .none (h.plain hc)
  | @some before body quote h hq hb ht =>
    subst ht
    by_cases hc : c = quote
    · rw [hc, quoteAfter_close, List.append_assoc]
      exact .none (h.quoted hq hb)
    · rw [quoteAfter_other hc]
      have hbody : quote ∉ body ++ [c] := by simpa [hb] using Ne.symm hc
      exact .some h hq hbody (by simp)

theorem endsInside_walk (text : List Char) : EndsInside text (text.foldl quoteAfter none) := by
  induction text using List.reverseRecOn with
  | nil => exact .none .nil
  | append_singleton text c ih =>
    rw [List.foldl_append]
    exact ih.step c

theorem Unquoted.walk {text : List Char} (h : Unquoted text) :
    text.foldl quoteAfter none = none := by
  induction h with
  | nil => rfl
  | plain _ hc ih => rw [List.foldl_append, ih, List.foldl_cons, quoteAfter_plainChar hc]; rfl
  | quoted _ hq hb ih =>
    rw [List.foldl_append, ih, List.cons_append, List.foldl_cons, quoteAfter_quote hq,
      List.foldl_append, foldl_body hb, List.foldl_cons, quoteAfter_close]
    rfl

theorem unquoted_iff {text : List Char} : Unquoted text ↔ text.foldl quoteAfter none = none := by
  refine ⟨Unquoted.walk, fun h => ?_⟩
  have hend := endsInside_walk text
  rw [h] at hend
  cases hend with
  | none h => exact h

instance (text : List Char) : Decidable (Unquoted text) := decidable_of_iff _ unquoted_iff.symm

def IsMarker (text : List Char) (place : Nat) : Prop :=
  text[place]? = some '?' ∧ Unquoted (text.take place)

instance (text : List Char) (place : Nat) : Decidable (IsMarker text place) :=
  inferInstanceAs (Decidable (_ ∧ _))

def markersOf (text : List Char) : Nat := (List.range text.length).countP (IsMarker text ·)

theorem isMarker_append_of_lt {text : List Char} {place : Nat} (h : place < text.length)
    (more : List Char) : IsMarker (text ++ more) place ↔ IsMarker text place := by
  unfold IsMarker
  rw [List.getElem?_append_left h, List.take_append_of_le_length h.le]

theorem isMarker_last (text : List Char) (c : Char) :
    IsMarker (text ++ [c]) text.length ↔ text.foldl quoteAfter none = none ∧ c = '?' := by
  unfold IsMarker
  simp [unquoted_iff, and_comm]

theorem markersOf_eq (text : List Char) : markersOf text = markerCount none text := by
  induction text using List.reverseRecOn with
  | nil => rfl
  | append_singleton text c ih =>
    have hbefore : (List.range text.length).countP (IsMarker (text ++ [c]) ·) = markersOf text := by
      refine List.countP_congr fun place hplace => ?_
      simpa using isMarker_append_of_lt (List.mem_range.1 hplace) [c]
    rw [markerCount_append, ← ih, markersOf, List.length_append, List.length_singleton,
      List.range_succ, List.countP_append, hbefore, List.countP_singleton]
    simp [isMarker_last, markerCount]

/-- The text is the template behind what is before it, with one position after the
other written for its markers and every other character kept. -/
inductive Renders : (before template : List Char) → List Nat → List Char → Prop
  | done {before : List Char} : Renders before [] [] []
  | marker {before rest sql : List Char} {position : Nat} {positions : List Nat}
    (h : Unquoted before) (hr : Renders (before ++ ['?']) rest positions sql) :
    Renders before ('?' :: rest) (position :: positions) ((placeholder position).toList ++ sql)
  | kept {before rest sql : List Char} {c : Char} {positions : List Nat}
    (h : ¬(Unquoted before ∧ c = '?')) (hr : Renders (before ++ [c]) rest positions sql) :
    Renders before (c :: rest) positions (c :: sql)

theorem renders_numbered (before rest : List Char) (next : Nat) :
    Renders before rest (List.range' next (markerCount (before.foldl quoteAfter none) rest))
      (numbered (before.foldl quoteAfter none) next rest) := by
  induction rest generalizing before next with
  | nil => exact .done
  | cons c rest ih =>
    have hstep : quoteAfter (before.foldl quoteAfter none) c =
        (before ++ [c]).foldl quoteAfter none := by
      rw [List.foldl_append]
      rfl
    unfold numbered markerCount
    split
    next h =>
      obtain ⟨hbefore, rfl⟩ := h
      rw [hstep, Nat.add_comm, List.range'_succ]
      refine .marker (unquoted_iff.2 hbefore) ?_
      have hnone : (before ++ ['?']).foldl quoteAfter none = none := by
        rw [← hstep, hbefore, quoteAfter_of_mark (.inl rfl)]
      simpa only [hnone] using ih (before ++ ['?']) (next + 1)
    next h =>
      rw [hstep, Nat.zero_add]
      exact .kept (fun hc => h ⟨unquoted_iff.1 hc.1, hc.2⟩) (ih _ next)

namespace Builder

/-- What a builder is asked for; a template on its own has no parameters. -/
inductive Call
  | bind (fragment : Fragment)
  | fragment (template : String)

namespace Call

def operand : Call → Fragment
  | bind f => f
  | fragment template => { template }

def Fits (call : Call) : Prop :=
  markersOf call.operand.template.toList = call.operand.params.length

/-- What a call is answered with, whatever was bound before it. -/
inductive IsAnsweredBy (call : Call) : Except Error Bound → Prop
  | bound {bound : Bound} (h : call.Fits)
    (hr : Renders [] call.operand.template.toList bound.positions bound.sql.toList) :
    IsAnsweredBy call (.ok bound)
  | refused (h : ¬call.Fits) :
    IsAnsweredBy call (.error (misfit call.operand (markersOf call.operand.template.toList)))

end Call

def settle (b : Builder) : Except Error (Bound × Builder) → Except Error Bound × Builder
  | .ok (bound, next) => (.ok bound, next)
  | .error e => (.error e, b)

def answer (b : Builder) : Call → Except Error Bound × Builder
  | .bind fragment => b.settle (b.bind fragment)
  | .fragment template =>
    b.settle ((fun made => (⟨made.1, []⟩, made.2)) <$> b.fragment template)

def run (b : Builder) : List Call → List (Except Error Bound) × Builder
  | [] => ([], b)
  | call :: rest =>
    let (outcome, next) := b.answer call
    let (outcomes, last) := next.run rest
    (outcome :: outcomes, last)

theorem run_append (b : Builder) (calls more : List Call) :
    (b.run (calls ++ more)).2 = ((b.run calls).2.run more).2 := by
  induction calls generalizing b with
  | nil => rfl
  | cons call rest ih => exact ih (b.answer call).2

theorem bind_of_fits {b : Builder} {call : Call} (h : call.Fits) :
    b.bind call.operand = .ok (⟨number b.next call.operand.template,
      List.range' b.next call.operand.params.length⟩, b.push call.operand.params) := by
  have hmarkers : markerCount none call.operand.template.toList = call.operand.params.length :=
    (markersOf_eq _).symm.trans h
  rw [Builder.bind, if_pos hmarkers, hmarkers]
  rfl

theorem bind_of_not_fits {b : Builder} {call : Call} (h : ¬call.Fits) : b.bind call.operand =
    .error (misfit call.operand (markersOf call.operand.template.toList)) := by
  rw [Call.Fits, markersOf_eq] at h
  rw [Builder.bind, if_neg h, markersOf_eq]

theorem answer_of_fits {b : Builder} {call : Call} (h : call.Fits) : b.answer call =
    (.ok ⟨number b.next call.operand.template, List.range' b.next call.operand.params.length⟩,
      b.push call.operand.params) := by
  cases call with
  | bind fragment => exact congrArg b.settle (bind_of_fits h)
  | fragment template =>
    have hb : b.bind { template } = _ := bind_of_fits h
    rw [answer, Builder.fragment, hb]
    rfl

theorem answer_of_not_fits {b : Builder} {call : Call} (h : ¬call.Fits) : b.answer call =
    (.error (misfit call.operand (markersOf call.operand.template.toList)), b) := by
  cases call with
  | bind fragment => exact congrArg b.settle (bind_of_not_fits h)
  | fragment template =>
    have hb : b.bind { template } = _ := bind_of_not_fits h
    rw [answer, Builder.fragment, hb]
    rfl

theorem renders_number (next : Nat) {call : Call} (h : call.Fits) :
    Renders [] call.operand.template.toList (List.range' next call.operand.params.length)
      (number next call.operand.template).toList := by
  rw [number_toList, ← h, markersOf_eq]
  exact renders_numbered [] _ next

def granted (calls : List Call) (outcomes : List (Except Error Bound)) : List Datum :=
  ((calls.zip outcomes).filter (·.2.isOk)).flatMap (·.1.operand.params)

def taken (outcomes : List (Except Error Bound)) : List Nat :=
  outcomes.flatMap fun
    | .ok bound => bound.positions
    | .error _ => []

theorem run_spec (b : Builder) (calls : List Call) :
    List.Forall₂ Call.IsAnsweredBy calls (b.run calls).1 ∧
      (b.run calls).2 = b.push (granted calls (b.run calls).1) ∧
      taken (b.run calls).1 = List.range' b.next (granted calls (b.run calls).1).length := by
  induction calls generalizing b with
  | nil => exact ⟨.nil, b.push_nil.symm, rfl⟩
  | cons call rest ih =>
    by_cases h : call.Fits
    · obtain ⟨hanswers, hlast, htaken⟩ := ih (b.push call.operand.params)
      simp only [run, answer_of_fits h]
      refine ⟨.cons (.bound h (renders_number b.next h)) hanswers, ?_, ?_⟩
      · rw [hlast, push_push]
        rfl
      · -- The positions of this call end where those of the calls behind it begin.
        change List.range' b.next call.operand.params.length ++ taken _ =
          List.range' b.next (call.operand.params ++ granted rest _).length
        rw [htaken, next_push, List.length_append, List.range'_append_1]
    · obtain ⟨hanswers, hlast, htaken⟩ := ih b
      simp only [run, answer_of_not_fits h]
      exact ⟨.cons (.refused h) hanswers, hlast, htaken⟩

/-- From any first position and over any calls, failing ones included: a call
fails just where its markers and parameters differ in number, and then leaves the
builder as it is; otherwise its text is its template with its positions in place of
the markers. In the end the builder has the parameters of the successful calls in
their order, and their positions are all those from the first one to the next. -/
theorem run_invariant (first : Nat) (calls : List Call) :
    ∃ outcomes last, (startingAt first).run calls = (outcomes, last) ∧
      List.Forall₂ Call.IsAnsweredBy calls outcomes ∧
      (∀ earlier call later, calls = earlier ++ call :: later → ¬call.Fits →
        ((startingAt first).run (earlier ++ [call])).2 = ((startingAt first).run earlier).2) ∧
      last.params = granted calls outcomes ∧
      last.next = max first 1 + last.params.length ∧
      taken outcomes = List.Ico (max first 1) last.next := by
  obtain ⟨hanswers, hlast, htaken⟩ := run_spec (startingAt first) calls
  refine ⟨_, _, rfl, hanswers, ?_, ?_, ?_, ?_⟩
  · intro earlier call later _ hmisfit
    rw [run_append]
    simp only [run, answer_of_not_fits hmisfit]
  · rw [hlast]
    rfl
  · rw [hlast]
    rfl
  · rw [htaken, hlast, next_push, next_startingAt, List.Ico, Nat.add_sub_cancel_left]

example : startingAt 1 = {} := rfl

end Builder
end DocSql.Sql

/-
  Inlay.Proofs.Colouring
  ────────────────────────────────
  **COLOURS ADD CONTROL SEQUENCES AND NOTHING ELSE.**

  A diagnostic is written with colours or without.  When nothing that it tells
  holds an escape character, the coloured text without its control sequences
  is the plain one:

      StripsTo  — one text is another one plus control sequences, whatever
                  text stands behind
      texts     — the texts that a diagnostic is told
-/
import Inlay.Diagnostic.Report
import Mathlib.Data.List.Forall2

namespace Inlay

open Inlay.Text Inlay.Diagnostic

/-! ## §1. Texts that are stripped to others. -/

/-- Does the text hold no escape character? -/
def IsClear (s : String) : Prop := '\x1b' ∉ s.toList

/-- Is the second text what stripping leaves of the first, whatever follows? -/
def StripsTo (s t : String) : Prop :=
  ∀ rest, withoutSequences (s.toList ++ rest) = t.toList ++ withoutSequences rest

theorem withoutSequences_cons {c : Char} (h : c ≠ '\x1b') (s : List Char) :
    withoutSequences (c :: s) = c :: withoutSequences s := by
  rw [withoutSequences, if_neg h]

/-- A control sequence disappears. -/
theorem withoutSequences_escape {s rest : List Char} (h : afterSequence? s = some rest) :
    withoutSequences ('\x1b' :: s) = withoutSequences rest := by
  rw [withoutSequences, if_pos rfl]
  split
  · rename_i heq
    rw [h] at heq
    rw [Option.some.inj heq]
  · rename_i heq
    rw [h] at heq
    cases heq

theorem withoutSequences_clear {s : List Char} (h : '\x1b' ∉ s) (rest : List Char) :
    withoutSequences (s ++ rest) = s ++ withoutSequences rest := by
  induction s with
  | nil => rfl
  | cons c s ih =>
    obtain ⟨hc, hs⟩ := List.ne_and_not_mem_of_not_mem_cons h
    rw [List.cons_append, withoutSequences_cons (Ne.symm hc), ih hs, List.cons_append]

namespace StripsTo

variable {s t u v : String} {ss ts us vs : List String}

/-- Stripping the whole text leaves the other one. -/
theorem strips (h : StripsTo s t) : stripColours s = t := by
  have hall := h []
  rw [List.append_nil, withoutSequences, List.append_nil] at hall
  rw [stripColours, hall, String.ofList_toList]

theorem append (h : StripsTo s t) (h' : StripsTo u v) : StripsTo (s ++ u) (t ++ v) := by
  intro rest
  rw [String.toList_append, String.toList_append, List.append_assoc, h, h', List.append_assoc]

/-- A text without an escape character is left as it is. -/
theorem clear (h : IsClear s) : StripsTo s s := fun rest => withoutSequences_clear h rest

/-- Lines that are stripped one by one are stripped together. -/
theorem intercalate (hlines : List.Forall₂ StripsTo ss ts) {separator : String}
    (h : StripsTo separator separator) :
    StripsTo (separator.intercalate ss) (separator.intercalate ts) := by
  induction hlines with
  | nil => exact fun rest => rfl
  | cons hfirst hrest ih =>
    cases hrest with
    | nil => simpa using hfirst
    | cons hsecond hmore =>
      rw [String.intercalate_cons_cons, String.intercalate_cons_cons]
      exact (hfirst.append h).append ih

end StripsTo

/-! ## §2. Painted text. -/

/-- The escape character, the bracket, the number and the final letter of a style are one control
sequence, whatever stands behind them. -/
theorem stripsTo_sequence (s : Style) : StripsTo s.sequence "" := by
  intro rest
  have hspelling : s.sequence.toList ++ rest = '\x1b' :: '[' :: (s.number.toList ++ 'm' :: rest) := by
    simp [Style.sequence]
  rw [hspelling]
  refine withoutSequences_escape ?_
  cases s <;> rfl

theorem stripsTo_sequences (styles : List Style) :
    StripsTo (String.join (styles.map Style.sequence)) "" := by
  induction styles with
  | nil => exact fun rest => rfl
  | cons s styles ih =>
    rw [List.map_cons, String.join_cons]
    exact (stripsTo_sequence s).append ih

/-- Paint comes off. -/
theorem stripsTo_paint {s t : String} (styles : List Style) (h : StripsTo s t) :
    StripsTo (paint true styles s) (paint false styles t) := by
  unfold paint
  by_cases hstyles : styles.isEmpty
  · simpa [hstyles] using h
  · have hboth := ((stripsTo_sequences styles).append h).append (stripsTo_sequence .reset)
    simpa [hstyles] using hboth

/-! ## §3. Clear texts. -/

namespace IsClear

instance (s : String) : Decidable (IsClear s) := inferInstanceAs (Decidable (_ ∉ _))

theorem append {s t : String} (hs : IsClear s) (ht : IsClear t) : IsClear (s ++ t) := by
  unfold IsClear
  rw [String.toList_append, List.mem_append, not_or]
  exact ⟨hs, ht⟩

theorem ofNat (n : Nat) : IsClear (toString n) := by
  intro h
  rw [Nat.toString_eq_ofList_toDigits, String.toList_ofList] at h
  exact absurd (Nat.isDigit_of_mem_toDigits (by omega) (by omega) h) (by decide)

/-- A number is written in digits, behind a sign perhaps. -/
theorem ofInt (n : Int) : IsClear (toString n) := by
  cases n with
  | ofNat n => exact ofNat n
  | negSucc n => exact append (show IsClear "-" by decide) (ofNat (n + 1))

theorem ofBlanks (n : Nat) : IsClear (String.ofList (List.replicate n ' ')) := by
  intro h
  rw [String.toList_ofList] at h
  exact absurd (List.eq_of_mem_replicate h) (by decide)

theorem padLeft {s : String} (h : IsClear s) (width : Nat) : IsClear (padLeft width s) :=
  (ofBlanks _).append h

theorem intercalate {ss : List String} (h : ∀ s ∈ ss, IsClear s) {separator : String}
    (hseparator : IsClear separator) : IsClear (separator.intercalate ss) := by
  induction ss with
  | nil => exact (by decide : IsClear "")
  | cons s ss ih =>
    rw [List.forall_mem_cons] at h
    cases ss with
    | nil => simpa using h.1
    | cons t ts =>
      rw [String.intercalate_cons_cons]
      exact (h.1.append hseparator).append (ih h.2)

end IsClear

/-! ## §4. Snippets and chains of includes. -/

/-- The source lines that a snippet shows. -/
def Diagnostic.Snippet.texts (s : Snippet) : List String := s.lines.map Prod.snd

theorem stripsTo_sourceLine (line : Int) {content : String} (h : IsClear content)
    (isError : Bool) :
    StripsTo (sourceLine true line content isError) (sourceLine false line content isError) := by
  have hmark : IsClear (if isError then ">" else " ") := by cases isError <;> decide
  have hnumber := (IsClear.ofInt line).padLeft 3
  have hbar : StripsTo " | " " | " := .clear (by decide)
  have hleft := (stripsTo_paint [.yellow] (.clear (hmark.append hnumber))).append hbar
  cases isError with
  | true => exact hleft.append (stripsTo_paint [.brightRed] (.clear h))
  | false => exact hleft.append (stripsTo_paint [.dim] (.clear h))

/-- The bar in front of a snippet, below a line and behind the snippet. -/
theorem stripsTo_bar : StripsTo (paintDim true "   |") (paintDim false "   |") :=
  stripsTo_paint [.dim] (.clear (by decide))

theorem stripsTo_lineText (s : Snippet) {l : Int × String} (h : IsClear l.2) :
    List.Forall₂ StripsTo (s.lineText true l) (s.lineText false l) := by
  refine .cons (stripsTo_sourceLine l.1 h _) ?_
  -- only the failing line may have a caret below it
  cases l.1 == s.errorLine with
  | false => exact .nil
  | true =>
    cases s.column with
    | none => exact .nil
    | some c =>
      have hcaret : IsClear (blanks c ++ "^") := (IsClear.ofBlanks _).append (by decide)
      have hblank : StripsTo " " " " := .clear (by decide)
      exact .cons ((stripsTo_bar.append hblank).append (stripsTo_paint [.brightRed] (.clear hcaret)))
        .nil

theorem stripsTo_format {s : Snippet} (h : ∀ t ∈ s.texts, IsClear t) :
    StripsTo (s.format true) (s.format false) := by
  have hlines : ∀ ls : List (Int × String), (∀ t ∈ ls.map Prod.snd, IsClear t) →
      List.Forall₂ StripsTo (ls.flatMap (s.lineText true)) (ls.flatMap (s.lineText false)) := by
    intro ls hls
    induction ls with
    | nil => exact .nil
    | cons l ls ih =>
      rw [List.map_cons, List.forall_mem_cons] at hls
      rw [List.flatMap_cons, List.flatMap_cons]
      exact List.rel_append (stripsTo_lineText s hls.1) (ih hls.2)
  refine StripsTo.intercalate ?_ (.clear (by decide))
  exact List.rel_append (.cons stripsTo_bar (hlines s.lines h)) (.cons stripsTo_bar .nil)

theorem stripsTo_stackText {stack : List (String × Int)} (h : ∀ t ∈ stack.map Prod.fst, IsClear t) :
    StripsTo (stackText true stack) (stackText false stack) := by
  have hlinks : List.Forall₂ StripsTo (stack.map (stackLine true)) (stack.map (stackLine false)) := by
    induction stack with
    | nil => exact .nil
    | cons link stack ih =>
      rw [List.map_cons, List.forall_mem_cons] at h
      have hplace : IsClear (link.1 ++ ":" ++ toString link.2) :=
        (h.1.append (by decide)).append (IsClear.ofInt link.2)
      have hbullet : StripsTo "  • " "  • " := .clear (by decide)
      exact .cons (hbullet.append (stripsTo_paint [.cyan] (.clear hplace))) (ih h.2)
  unfold stackText
  split
  · exact .clear (by decide)
  · exact StripsTo.intercalate (.cons (stripsTo_paint [.dim] (.clear (by decide))) hlinks)
      (.clear (by decide))

/-! ## §5. What a report is told. -/

/-- The texts that a fault is told. -/
def Fault.texts : Fault → List String
  | .unterminatedMarker opener => [opener]
  | .unexpectedClause word => [word]
  | .unclosedBlock header => [header]
  | .invalidCode code _ => [code]
  | .stated message _ suggestion => message :: suggestion.toList
  | .unexpectedEnd => []
  | .strayBeforeCase => []

namespace Diagnostic

/-- The texts that the report of a malformed source is told. -/
def Malformed.texts (r : Malformed) : List String :=
  r.fault.texts ++ (r.anchor.token?.map Token.value).toList ++ r.name.toList ++ r.filename.toList
    ++ r.source.toList

/-- The texts that the report of a failed render is told. -/
def Failure.texts (r : Failure) : List String :=
  r.text :: r.template.toList ++ r.suggestion.toList ++ r.snippet.toList.flatMap Snippet.texts
    ++ r.stack.map Prod.fst ++ r.cause.toList

/-- The texts that the report of an unknown name is told. -/
def Undefined.texts (r : Undefined) : List String :=
  r.name :: r.template.toList ++ r.available ++ r.snippet.toList.flatMap Snippet.texts
    ++ r.stack.map Prod.fst

/-- The texts that a report is told. -/
def Report.texts : Report → List String
  | .plain message => [message]
  | .notFound message => [message]
  | .malformed r => r.texts
  | .failure r => r.texts
  | .undefined r => r.texts

end Diagnostic

/-- The wording of a fault adds nothing but letters and signs to what it is told. -/
theorem isClear_faultMessage {f : Fault} (h : ∀ t ∈ f.texts, IsClear t) : IsClear f.message := by
  cases f with
  | unterminatedMarker opener =>
    exact ((show IsClear "Unterminated marker '" by decide).append (h _ List.mem_cons_self)).append
      (by decide)
  | unexpectedEnd => exact (by decide : IsClear "Unexpected 'end' with no open block")
  | unexpectedClause word =>
    exact ((show IsClear "Unexpected '" by decide).append (h _ List.mem_cons_self)).append
      (by decide)
  | unclosedBlock header =>
    exact ((show IsClear "Unclosed block '" by decide).append (h _ List.mem_cons_self)).append
      (by decide)
  | invalidCode code reason =>
    have hreason : IsClear reason.message := by cases reason <;> decide
    have hcode := (show IsClear "Invalid code '" by decide).append (h _ List.mem_cons_self)
    exact (hcode.append (by decide)).append hreason
  | strayBeforeCase => exact (by decide : IsClear "Only 'case' clauses may follow a 'match' header")
  | stated message code suggestion => exact h _ List.mem_cons_self

theorem isClear_faultSuggestion {f : Fault} (h : ∀ t ∈ f.texts, IsClear t) :
    ∀ t ∈ f.suggestion, IsClear t := by
  intro t ht
  cases f with
  | stated message code suggestion =>
    exact h t (List.mem_cons_of_mem _ (Option.mem_toList.2 ht))
  | unterminatedMarker opener =>
    obtain rfl := Option.some.inj ht
    decide
  | unexpectedClause word =>
    obtain rfl := Option.some.inj ht
    decide
  | unclosedBlock header =>
    obtain rfl := Option.some.inj ht
    decide
  | unexpectedEnd => cases ht
  | invalidCode code reason => cases ht
  | strayBeforeCase => cases ht

theorem isClear_codeValue (c : ErrorCode) : IsClear c.value := by cases c <;> decide

theorem eq_some_of_nonempty? {s : Option String} {t : String} (h : nonempty? s = some t) :
    s = some t :=
  (Option.filter_eq_some_iff.1 h).1

/-- A text that is there, or the word for one that is not. -/
theorem isClear_getD {o : Option String} {d : String} (h : ∀ t ∈ o, IsClear t) (hd : IsClear d) :
    IsClear (o.getD d) := by
  cases o with
  | none => exact hd
  | some t => exact h t rfl

theorem isClear_lineSuffix (line : Option Int) : IsClear (lineSuffix line) := by
  unfold lineSuffix
  cases line with
  | none => decide
  | some n =>
    dsimp only
    split
    · decide
    · exact (show IsClear ":" by decide).append (IsClear.ofInt n)

/-! ## §6. Malformed sources. -/

namespace Diagnostic.Malformed

variable {r : Malformed}

theorem isClear_fault (h : ∀ t ∈ r.texts, IsClear t) : ∀ t ∈ r.fault.texts, IsClear t :=
  fun t ht => h t (by simp [texts, ht])

theorem isClear_location (h : ∀ t ∈ r.texts, IsClear t) : IsClear r.location := by
  have hplace : ∀ t ∈ (nonempty? r.filename).or (nonempty? r.name), IsClear t := by
    intro t ht
    rcases Option.or_eq_some_iff.1 ht with ht | ⟨-, ht⟩
    · exact h t (by simp [texts, eq_some_of_nonempty? ht])
    · exact h t (by simp [texts, eq_some_of_nonempty? ht])
  have hcolumn : IsClear
      (if hasLine r.line then (r.column.map (fun c => ":" ++ toString c)).getD "" else "") := by
    split
    · refine isClear_getD ?_ (by decide)
      intro t ht
      obtain ⟨c, -, rfl⟩ := Option.map_eq_some_iff.1 ht
      exact (show IsClear ":" by decide).append (IsClear.ofInt c)
    · decide
  exact ((isClear_getD hplace (by decide)).append (isClear_lineSuffix r.line)).append hcolumn

theorem isClear_sourceLines (h : ∀ t ∈ r.texts, IsClear t) : ∀ t ∈ r.sourceLines, IsClear t := by
  intro t ht
  unfold sourceLines at ht
  split at ht
  · rename_i source n hsource hline
    have hclear : IsClear source :=
      h source (by simp [texts, eq_some_of_nonempty? hsource])
    dsimp only at ht
    split at ht
    · -- the bar, the failing line, and perhaps the caret
      rcases List.mem_append.1 ht with ht | ht
      · rcases List.mem_cons.1 ht with rfl | ht
        · decide
        · obtain rfl := List.mem_singleton.1 ht
          have hnumber := ((IsClear.ofInt n).padLeft 3).append (show IsClear " | " by decide)
          refine hnumber.append (isClear_getD ?_ (by decide))
          intro l hl
          obtain ⟨l', hl', rfl⟩ := List.mem_map.1 (List.mem_of_getElem? hl)
          intro hescape
          rw [String.toList_ofList] at hescape
          exact hclear (mem_of_mem_breakLines hl' hescape)
      · obtain ⟨c, -, rfl⟩ := Option.map_eq_some_iff.1 (Option.mem_toList.1 ht)
        exact ((show IsClear "   | " by decide).append (IsClear.ofBlanks _)).append (by decide)
    · exact absurd ht List.not_mem_nil
  · exact absurd ht List.not_mem_nil

theorem isClear_message (h : ∀ t ∈ r.texts, IsClear t) : IsClear r.message := by
  have hadvice : IsClear r.advice := by
    unfold advice
    split
    · decide
    · rename_i s hsuggestion _
      exact (show IsClear "\n\nSuggestion: " by decide).append
        (isClear_faultSuggestion (isClear_fault h) s (eq_some_of_nonempty? hsuggestion))
    · decide
  refine IsClear.append (IsClear.intercalate ?_ (by decide)) hadvice
  rw [List.forall_mem_cons, List.forall_mem_cons]
  refine ⟨?_, ?_, isClear_sourceLines h⟩
  · exact (show IsClear "Syntax Error: " by decide).append (isClear_faultMessage (isClear_fault h))
  · exact (show IsClear "  --> " by decide).append (isClear_location h)

theorem isClear_compact (h : ∀ t ∈ r.texts, IsClear t) : IsClear r.compact := by
  refine IsClear.intercalate ?_ (by decide)
  rw [List.forall_mem_append, List.forall_mem_cons, List.forall_mem_cons]
  refine ⟨⟨?_, ?_, isClear_sourceLines h⟩, ?_⟩
  · exact ((isClear_codeValue _).append (by decide)).append
      (isClear_faultMessage (isClear_fault h))
  · exact (show IsClear "  --> " by decide).append (isClear_location h)
  · intro t ht
    split at ht
    · exact absurd ht List.not_mem_nil
    · obtain rfl := List.mem_singleton.1 ht
      decide

end Diagnostic.Malformed

/-! ## §7. Failed renders and unknown names. -/

theorem stripsTo_withCode (code : ErrorCode) {s t : String} (h : StripsTo s t) :
    StripsTo (withCode true (some code.value) s) (withCode false (some code.value) t) := by
  unfold withCode
  cases hcode : nonempty? (some code.value) with
  | none => exact h
  | some c =>
    have hclear : IsClear c := by
      obtain rfl := Option.some.inj (eq_some_of_nonempty? hcode)
      exact isClear_codeValue code
    have hpainted := stripsTo_paint [.brightRed, .bold] (.clear hclear)
    exact (hpainted.append (.clear (show IsClear ": " by decide))).append h

/-- Lines that are there only if something else is. -/
theorem stripsAll_toList {α : Type} {o : Option α} {f g : α → String}
    (h : ∀ a ∈ o, StripsTo (f a) (g a)) :
    List.Forall₂ StripsTo (o.map f).toList (o.map g).toList := by
  cases o with
  | none => exact .nil
  | some a => exact .cons (h a rfl) .nil

/-- The snippet and the chain of includes of a report. -/
theorem stripsAll_details {snippet : Option Snippet} {stack : List (String × Int)}
    (hsnippet : ∀ t ∈ snippet.toList.flatMap Snippet.texts, IsClear t)
    (hstack : ∀ t ∈ stack.map Prod.fst, IsClear t) :
    List.Forall₂ StripsTo
      ((snippet.map (Snippet.format true)).toList
        ++ (if stack.isEmpty then [] else ["", stackText true stack]))
      ((snippet.map (Snippet.format false)).toList
        ++ (if stack.isEmpty then [] else ["", stackText false stack])) := by
  refine List.rel_append (stripsAll_toList ?_) ?_
  · intro s hs
    refine stripsTo_format (fun t ht => hsnippet t ?_)
    exact List.mem_flatMap.2 ⟨s, Option.mem_toList.2 hs, ht⟩
  · split
    · exact .nil
    · exact .cons (.clear (by decide)) (.cons (stripsTo_stackText hstack) .nil)

namespace Diagnostic.Failure

variable {r : Failure}

theorem isClear_location (h : ∀ t ∈ r.texts, IsClear t) : IsClear r.location := by
  refine (isClear_getD ?_ (by decide)).append (isClear_lineSuffix r.line)
  exact fun t ht => h t (by simp [texts, eq_some_of_nonempty? ht])

theorem stripsTo_locationLine (h : ∀ t ∈ r.texts, IsClear t) :
    StripsTo (r.locationLine true) (r.locationLine false) := by
  have hword : StripsTo "  Location: " "  Location: " := .clear (by decide)
  exact hword.append (stripsTo_paint [.cyan] (.clear (isClear_location h)))

theorem stripsAll_details (h : ∀ t ∈ r.texts, IsClear t) :
    List.Forall₂ StripsTo (r.details true) (r.details false) := by
  refine Inlay.stripsAll_details (fun t ht => h t ?_) (fun t ht => h t ?_)
  · simp only [texts, List.mem_append, List.mem_cons]
    tauto
  · simp only [texts, List.mem_append, List.mem_cons]
    tauto

/-- Advice behind a painted word. -/
theorem stripsAll_advice (h : ∀ t ∈ r.texts, IsClear t) {front word : String}
    (hfront : IsClear front) (hword : IsClear word) :
    List.Forall₂ StripsTo
      ((nonempty? r.suggestion).map (fun s => front ++ paintHint true word ++ " " ++ s)).toList
      ((nonempty? r.suggestion).map (fun s => front ++ paintHint false word ++ " " ++ s)).toList := by
  refine stripsAll_toList (fun s hs => ?_)
  have hclear : IsClear s := h s (by simp [texts, eq_some_of_nonempty? hs])
  have hpainted := (StripsTo.clear hfront).append (stripsTo_paint [.green] (.clear hword))
  exact (hpainted.append (.clear (by decide))).append (.clear hclear)

theorem stripsTo_message (h : ∀ t ∈ r.texts, IsClear t) :
    StripsTo (r.message true) (r.message false) := by
  have htext : IsClear r.text := h r.text (by simp [texts])
  have hplace : List.Forall₂ StripsTo
      (if (nonempty? r.template).isSome || hasLine r.line then [r.locationLine true] else [])
      (if (nonempty? r.template).isSome || hasLine r.line then [r.locationLine false] else []) := by
    split
    · exact .cons (stripsTo_locationLine h) .nil
    · exact .nil
  refine StripsTo.intercalate (List.rel_append (List.rel_append (.cons ?_ hplace)
    (stripsAll_details h)) (stripsAll_advice h (by decide) (by decide))) (.clear (by decide))
  exact .clear ((show IsClear "Runtime Error: " by decide).append htext)

theorem stripsTo_compact (h : ∀ t ∈ r.texts, IsClear t) :
    StripsTo (r.compact true) (r.compact false) := by
  have htext : IsClear r.text := h r.text (by simp [texts])
  refine StripsTo.intercalate (List.rel_append (.cons (stripsTo_withCode _ (.clear htext)) (.cons
    (stripsTo_locationLine h) (stripsAll_details h)))
    (stripsAll_advice h (by decide) (by decide))) (.clear (by decide))

end Diagnostic.Failure

/-- The closest name is one of those that are bound. -/
theorem closest?_mem {word m : String} {candidates : List String}
    (h : m ∈ closest? word candidates) : m ∈ candidates := by
  -- whatever the fold keeps, it was there before or is the candidate at hand
  have hkept : ∀ (cs : List String) (best : Option (Score × String)),
      ∀ p ∈ cs.foldl (closest?.step word) best, p ∈ best ∨ p.2 ∈ cs := by
    intro cs
    induction cs with
    | nil => exact fun best p hp => .inl hp
    | cons c cs ih =>
      intro best p hp
      rcases ih _ p hp with hstep | hrest
      · have hone : p ∈ best ∨ p.2 = c := by
          unfold closest?.step at hstep
          dsimp only at hstep
          split at hstep
          · exact .inl hstep
          · split at hstep
            · exact .inr (by rw [← Option.some.inj hstep])
            · split at hstep
              · exact .inr (by rw [← Option.some.inj hstep])
              · exact .inl hstep
        exact hone.imp_right (fun heq => List.mem_cons.2 (.inl heq))
      · exact .inr (List.mem_cons_of_mem _ hrest)
  obtain ⟨p, hp, rfl⟩ := Option.map_eq_some_iff.1 h
  rcases hkept candidates none p hp with hnone | hmem
  · cases hnone
  · exact hmem

namespace Diagnostic.Undefined

variable {r : Undefined}

theorem stripsTo_headline (h : ∀ t ∈ r.texts, IsClear t) :
    StripsTo (r.headline true) (r.headline false) := by
  have hname : IsClear r.name := h r.name (by simp [texts])
  have htemplate : IsClear r.templateName :=
    isClear_getD (fun t ht => h t (by simp [texts, eq_some_of_nonempty? ht])) (by decide)
  have hplace := stripsTo_paint [.cyan] (.clear (htemplate.append (isClear_lineSuffix r.line)))
  have hfront := ((show IsClear "Undefined variable '" by decide).append hname).append
    (show IsClear "' in " by decide)
  refine ((StripsTo.clear hfront).append hplace).append ?_
  cases hclosest : closest? r.name r.available with
  | none => exact .clear (by decide)
  | some m =>
    have hm : IsClear m := h m (by simp [texts, closest?_mem hclosest])
    have hask : StripsTo ". Did you mean '" ". Did you mean '" := .clear (by decide)
    exact (hask.append (stripsTo_paint [.brightGreen, .bold] (.clear hm))).append
      (.clear (by decide))

theorem stripsAll_rest (h : ∀ t ∈ r.texts, IsClear t) :
    List.Forall₂ StripsTo (r.rest true) (r.rest false) := by
  have hname : IsClear r.name := h r.name (by simp [texts])
  refine List.rel_append (Inlay.stripsAll_details (fun t ht => h t ?_) (fun t ht => h t ?_)) ?_
  · simp only [texts, List.mem_append, List.mem_cons]
    tauto
  · simp only [texts, List.mem_append, List.mem_cons]
    tauto
  · have hfront : StripsTo "  " "  " := .clear (by decide)
    have hhint := hfront.append (stripsTo_paint [.green] (.clear (show IsClear "Hint:" by decide)))
    have hpass := (hhint.append (.clear (show IsClear " Pass " by decide))).append (.clear hname)
    exact .cons (hpass.append (.clear (by decide))) .nil

theorem stripsTo_message (h : ∀ t ∈ r.texts, IsClear t) :
    StripsTo (r.message true) (r.message false) :=
  StripsTo.intercalate (.cons (stripsTo_headline h) (stripsAll_rest h)) (.clear (by decide))

theorem stripsTo_compact (h : ∀ t ∈ r.texts, IsClear t) :
    StripsTo (r.compact true) (r.compact false) :=
  StripsTo.intercalate (.cons (stripsTo_withCode _ (stripsTo_headline h)) (stripsAll_rest h))
    (.clear (by decide))

end Diagnostic.Undefined

/-! ## §8. All reports. -/

/-- A message behind its code is told the same way in colours: the code is looked for in the
message, which has none of them yet. -/
theorem stripsTo_codedOnce (code : ErrorCode) {m : String} (h : IsClear m) :
    StripsTo (Report.codedOnce true code m) (Report.codedOnce false code m) := by
  unfold Report.codedOnce
  split
  · exact .clear h
  · exact stripsTo_withCode code (.clear h)

theorem stripsTo_reportMessage {r : Report} (h : ∀ t ∈ r.texts, IsClear t) :
    StripsTo (r.message true) (r.message false) := by
  cases r with
  | plain m => exact .clear (h m List.mem_cons_self)
  | notFound m => exact .clear (h m List.mem_cons_self)
  | malformed r => exact .clear (Malformed.isClear_message h)
  | failure r => exact Failure.stripsTo_message h
  | undefined r => exact Undefined.stripsTo_message h

theorem stripsTo_reportCompact {r : Report} (h : ∀ t ∈ r.texts, IsClear t) :
    StripsTo (r.compact true) (r.compact false) := by
  cases r with
  | plain m => exact .clear (h m List.mem_cons_self)
  | notFound m => exact stripsTo_codedOnce _ (h m List.mem_cons_self)
  | malformed r => exact .clear (Malformed.isClear_compact h)
  | failure r => exact Failure.stripsTo_compact h
  | undefined r => exact Undefined.stripsTo_compact h

/-- **Colours only add control sequences.**  Whatever a diagnostic is told, as long as no escape
character is in it: both texts of a report, a message behind any code, a snippet and a chain of
includes, each written with colours and stripped, are what they are without colours. -/
theorem colours_strip_off :
    (∀ r : Report, (∀ t ∈ r.texts, IsClear t) →
      stripColours (r.message true) = r.message false
        ∧ stripColours (r.compact true) = r.compact false)
    ∧ (∀ (code : ErrorCode) (m : String), IsClear m →
      stripColours (Report.codedOnce true code m) = Report.codedOnce false code m)
    ∧ (∀ s : Snippet, (∀ t ∈ s.texts, IsClear t) →
      stripColours (s.format true) = s.format false)
    ∧ ∀ stack : List (String × Int), (∀ t ∈ stack.map Prod.fst, IsClear t) →
      stripColours (stackText true stack) = stackText false stack := by
  refine ⟨fun r h => ⟨?_, ?_⟩, fun code m h => ?_, fun s h => ?_, fun stack h => ?_⟩
  · exact (stripsTo_reportMessage h).strips
  · exact (stripsTo_reportCompact h).strips
  · exact (stripsTo_codedOnce code h).strips
  · exact (stripsTo_format h).strips
  · exact (stripsTo_stackText h).strips

/-- A misspelt name on the third line of an included template. -/
def misspeltName : Undefined :=
  { name := "titel", template := some "page.txt", line := some 3, available := ["title", "body"]
    snippet := some ⟨[(2, "\t<%= body %>"), (3, "  <%= titel %>")], 3, some 2⟩
    stack := [("site.txt", 4), ("page.txt", 1)] }

theorem colours_strip_off_misspeltName :
    (∀ t ∈ (Report.undefined misspeltName).texts, IsClear t)
    ∧ stripColours ((Report.undefined misspeltName).compact true) =
      (Report.undefined misspeltName).compact false
    ∧ IsClear "No template 'page.txt'"
    ∧ stripColours (Report.codedOnce true .templateNotFound "No template 'page.txt'") =
      Report.codedOnce false .templateNotFound "No template 'page.txt'"
    ∧ (∀ t ∈ Snippet.texts ⟨[(7, "<% end %>")], 7, none⟩, IsClear t)
    ∧ stripColours (Snippet.format true ⟨[(7, "<% end %>")], 7, none⟩) =
      Snippet.format false ⟨[(7, "<% end %>")], 7, none⟩
    ∧ (∀ t ∈ misspeltName.stack.map Prod.fst, IsClear t)
    ∧ stripColours (stackText true misspeltName.stack) = stackText false misspeltName.stack := by
  have hreport : ∀ t ∈ (Report.undefined misspeltName).texts, IsClear t := by decide
  have hmessage : IsClear "No template 'page.txt'" := by decide
  have hsnippet : ∀ t ∈ Snippet.texts ⟨[(7, "<% end %>")], 7, none⟩, IsClear t := by decide
  have hstack : ∀ t ∈ misspeltName.stack.map Prod.fst, IsClear t := by decide
  exact ⟨hreport, (colours_strip_off.1 _ hreport).2, hmessage,
    colours_strip_off.2.1 _ _ hmessage, hsnippet, colours_strip_off.2.2.1 _ hsnippet, hstack,
    colours_strip_off.2.2.2 _ hstack⟩

end Inlay

/-
  Inlay.Proofs.Holes
  ────────────────────────────────
  **HOW LONG THE CODE OF A HOLE IS.**

  A hole in a formatted text is code between braces, with a format behind it
  perhaps, in which there may be holes again.  The code of every hole is
  shorter than the text, by the two braces at least.
-/
import Inlay.Code.Literal

namespace Inlay.Code

/-! ## §1. Codes. -/

/-- Is the text the code of a hole, in the format of another one perhaps? -/
inductive HoleOf (code : List Char) : List Segment → Prop
  | here (label conversion format rest) : HoleOf code (.hole code label conversion format :: rest)
  | inFormat {outer label conversion segments rest} (h : HoleOf code segments) :
      HoleOf code (.hole outer label conversion (some segments) :: rest)
  | later {segment rest} (h : HoleOf code rest) : HoleOf code (segment :: rest)

theorem bracedName?_length {s name rest : List Char} (h : bracedName? s = some (name, rest)) :
    rest.length ≤ s.length := by
  unfold bracedName? at h
  split at h
  · dsimp only at h
    split at h
    · cases h
    · obtain ⟨-, rfl⟩ := Prod.mk.inj (Option.some.inj h)
      rw [List.length_drop, List.length_cons]
      omega
  · cases h

theorem readLiteral?_length {fuel : Nat} {raw inFormat : Bool} {s text rest : List Char}
    (h : readLiteral? fuel raw inFormat s = some (text, rest)) : rest.length ≤ s.length := by
  induction fuel generalizing s text with
  | zero => cases h
  | succ n ih =>
    -- whatever is put in front of the text, the rest is that of a shorter reading
    have hrec : ∀ {t : List Char} {f : List Char → List Char}, t.length ≤ s.length →
        (readLiteral? n raw inFormat t).map (fun p => (f p.1, p.2)) = some (text, rest) →
        rest.length ≤ s.length := by
      intro t f ht h
      obtain ⟨p, hp, heq⟩ := Option.map_eq_some_iff.1 h
      obtain ⟨-, rfl⟩ := Prod.mk.inj heq
      exact Nat.le_trans (ih hp) ht
    unfold readLiteral? at h
    split at h
    · obtain ⟨-, rfl⟩ := Prod.mk.inj (Option.some.inj h)
      exact Nat.le_refl _
    · rename_i c r
      have hr : r.length ≤ ('\\' :: c :: r).length := by simp only [List.length_cons]; omega
      split at h
      · exact hrec (Nat.le_succ _) h
      · split at h
        · split at h
          · rename_i name r' hname
            exact hrec (f := fun t => '\\' :: 'N' :: '\x7b' :: name ++ '\x7d' :: t)
              (Nat.le_trans (bracedName?_length hname) hr) h
          · cases h
        · exact hrec (f := fun t => '\\' :: c :: t) hr h
    · rename_i c r _
      split at h
      · split at h
        · obtain ⟨-, rfl⟩ := Prod.mk.inj (Option.some.inj h)
          exact Nat.le_refl _
        · split at h
          · refine hrec ?_ h
            rw [List.length_tail, List.length_cons]
            omega
          · split at h
            · cases h
            · obtain ⟨-, rfl⟩ := Prod.mk.inj (Option.some.inj h)
              exact Nat.le_refl _
      · exact hrec (Nat.le_succ _) h

theorem readHoleCode?_length {fuel : Nat} {quotes : QuoteState} {closers s code rest : List Char}
    (h : readHoleCode? fuel quotes closers s = some (code, rest)) :
    code.length + rest.length ≤ s.length := by
  induction fuel generalizing quotes closers s code with
  | zero => cases h
  | succ n ih =>
    -- some characters are kept, and the code behind them is read
    have hrec : ∀ {t f : List Char} {quotes closers}, f.length + t.length ≤ s.length →
        (readHoleCode? n quotes closers t).map (fun p => (f ++ p.1, p.2)) = some (code, rest) →
        code.length + rest.length ≤ s.length := by
      intro t f quotes closers ht h
      obtain ⟨p, hp, heq⟩ := Option.map_eq_some_iff.1 h
      obtain ⟨rfl, rfl⟩ := Prod.mk.inj heq
      have hlength := ih hp
      rw [List.length_append]
      omega
    unfold readHoleCode? at h
    split at h
    · cases h
    · rename_i c r
      have hkeep : ∀ {quotes closers}, (readHoleCode? n quotes closers r).map
          (fun p => (c :: p.1, p.2)) = some (code, rest) →
          code.length + rest.length ≤ (c :: r).length :=
        fun h => hrec (f := [c]) (by simp only [List.length_cons, List.length_nil]; omega) h
      have hkeepThree : ∀ {d : Char} {quotes}, [d, d].isPrefixOf r = true →
          (readHoleCode? n quotes closers (r.drop 2)).map
            (fun p => (c :: c :: c :: p.1, p.2)) = some (code, rest) →
          code.length + rest.length ≤ (c :: r).length := by
        intro d quotes hprefix h
        have htwo := (List.isPrefixOf_iff_prefix.1 hprefix).length_le
        refine hrec (f := [c, c, c]) ?_ h
        simp only [List.length_cons, List.length_nil, List.length_drop] at htwo ⊢
        omega
      dsimp only at h
      split at h
      · cases h
      · split at h
        · exact hkeep h
        · split at h
          · rename_i hlong
            rw [Bool.and_eq_true] at hlong
            exact hkeepThree hlong.2 h
          · exact hkeep h
        · split at h
          · split at h
            · rename_i hlong
              exact hkeepThree hlong h
            · exact hkeep h
          split at h
          · exact hkeep h
          split at h
          · exact hkeep h
          split at h
          · exact hkeep h
          split at h
          · cases h
          split at h
          · -- a sign that may end the code
            split at h
            · rename_i hequals
              rw [Bool.and_eq_true, decide_eq_true_eq] at hequals
              obtain ⟨t, rfl⟩ := List.head?_eq_some_iff.1 hequals.2
              refine hrec (f := [c, '=']) ?_ h
              simp only [List.length_cons, List.length_nil, List.tail_cons]
              omega
            · split at h
              · exact hkeep h
              · obtain ⟨rfl, rfl⟩ := Prod.mk.inj (Option.some.inj h)
                rw [List.length_nil]
                omega
          split at h
          · split at h
            · split at h
              · exact hkeep h
              · cases h
            · cases h
          · exact hkeep h

/-! ## §3. Segments. -/

/-- The code of a hole is shorter than the text that is read; the text behind is not longer. -/
theorem hole_le_of_readSegments? {fuel depth : Nat} {raw : Bool} {s rest : List Char}
    {segments : List Segment} (h : readSegments? fuel depth raw s = some (segments, rest)) :
    (∀ code, HoleOf code segments → code.length + 2 ≤ s.length) ∧ rest.length ≤ s.length := by
  induction fuel generalizing depth s segments rest with
  | zero => cases h
  | succ n ih =>
    unfold readSegments? at h
    obtain ⟨⟨text, t⟩, htext, h⟩ := Option.bind_eq_some_iff.1 h
    have hs := readLiteral?_length htext
    dsimp -zeta only at h
    extract_lets here at h
    have hhere : ∀ code more, HoleOf code (here ++ more) → HoleOf code more := by
      intro code more hcode
      unfold here at hcode
      split at hcode
      · exact hcode
      · cases hcode with
        | later hcode => exact hcode
    split at h
    · rename_i r
      split at h
      · cases h
      obtain ⟨⟨code, u⟩, hcode, h⟩ := Option.bind_eq_some_iff.1 h
      have hr := readHoleCode?_length hcode
      replace hr : code.length + u.length ≤ r.length := hr
      rw [List.length_cons] at hs
      -- behind the code stand its label, its conversion, its format and the closing brace
      have hleaf : ∀ label conversion format t', code.length + 1 + t'.length ≤ r.length →
          (∀ inner, format = some inner → ∀ code, HoleOf code inner → code.length + 2 ≤ r.length) →
          ((readSegments? n depth raw t').bind fun more =>
            some (here ++ Segment.hole code label conversion format :: more.1, more.2))
            = some (segments, rest) →
          (∀ code, HoleOf code segments → code.length + 2 ≤ s.length) ∧ rest.length ≤ s.length := by
        intro label conversion format t' ht' hformat h
        obtain ⟨more, hmore, h⟩ := Option.bind_eq_some_iff.1 h
        obtain ⟨rfl, rfl⟩ := Prod.mk.inj (Option.some.inj h)
        obtain ⟨hcodes, hrest⟩ := ih hmore
        refine ⟨?_, by omega⟩
        intro code' hcode'
        cases hhere _ _ hcode' with
        | here => omega
        | inFormat hinner =>
          have hle := hformat _ rfl _ hinner
          omega
        | later hlater =>
          have hle := hcodes _ hlater
          omega
      split at h
      case' h_1 =>
        rename_i t' heq
        have hlabel : t'.length + 1 = u.length := (congrArg List.length heq).symm
        have hblank := (List.dropWhile_suffix isCodeBlank (l := t')).length_le
        extract_lets behindLabel conversions check at h
        have hu : behindLabel.length ≤ u.length := by
          unfold behindLabel
          omega
        clear_value behindLabel
      case' h_2 =>
        extract_lets conversions check at h
        have hu : u.length ≤ u.length := Nat.le_refl _
      -- the same steps behind a label and behind none
      all_goals
        have hconversion : ∀ p, p.2.length ≤ u.length → conversions p = some (segments, rest) →
            (∀ code, HoleOf code segments → code.length + 2 ≤ s.length)
              ∧ rest.length ≤ s.length := by
          intro ⟨conversion, v⟩ hv h
          dsimp -zeta only [conversions] at h
          extract_lets formats at h
          dsimp only at hv
          have hformat : ∀ q, q.2.length ≤ v.length →
              (∀ inner, q.1 = some inner → ∀ code, HoleOf code inner → code.length + 2 ≤ v.length) →
              formats q = some (segments, rest) →
              (∀ code, HoleOf code segments → code.length + 2 ≤ s.length)
                ∧ rest.length ≤ s.length := by
            intro ⟨format, w⟩ hw hinner h
            dsimp -zeta only [formats] at h
            split at h
            · rename_i t''
              rw [List.length_cons] at hw
              refine hleaf _ _ _ _ (by omega) (fun inner hformat code' hcode' => ?_) h
              have hle := hinner inner hformat code' hcode'
              omega
            · cases h
          split at h
          · rename_i t''
            have hcolon : (':' :: t'').length = t''.length + 1 := List.length_cons
            obtain ⟨q, hq, h⟩ := Option.bind_eq_some_iff.1 h
            obtain ⟨p, hp, rfl⟩ := Option.map_eq_some_iff.1 hq
            obtain ⟨hcodes, hrest⟩ := ih hp
            refine hformat _ (by dsimp only; omega) (fun inner hformat code' hcode' => ?_) h
            obtain rfl := Option.some.inj hformat
            have hle := hcodes code' hcode'
            omega
          · exact hformat (none, v) (Nat.le_refl _) (fun inner hformat => by cases hformat) h
        split at h
        · cases h
        replace h : check () = some (segments, rest) := h
        dsimp -zeta only [check] at h
        split at h
        · split at h
          · exact hconversion _ (Nat.le_trans (Nat.le_add_right _ 2) hu) h
          · cases h
        · exact hconversion _ hu h
    · obtain ⟨rfl, rfl⟩ := Prod.mk.inj (Option.some.inj h)
      refine ⟨?_, hs⟩
      intro code hcode
      rw [← List.append_nil here] at hcode
      cases hhere _ _ hcode

/-- **The code of a hole is shorter than the text, by two braces at least.** -/
theorem hole_le_of_segments? {raw : Bool} {body code : List Char} {segments : List Segment}
    (h : segments? raw body = some segments) (hcode : HoleOf code segments) :
    code.length + 2 ≤ body.length := by
  obtain ⟨⟨parts, rest⟩, hparts, h⟩ := Option.bind_eq_some_iff.1 h
  split at h
  · rename_i heq
    obtain ⟨rfl, -⟩ := Prod.mk.inj heq
    obtain rfl := Option.some.inj h
    exact (hole_le_of_readSegments? hparts).1 code hcode
  · cases h

end Inlay.Code

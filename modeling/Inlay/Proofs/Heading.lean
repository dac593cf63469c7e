/-
  Inlay.Proofs.Heading
  ────────────────────────────────
  **A HEADER SAYS THE SAME WHEREVER IT STANDS.**

  The readers of patterns, headers and simple statements are put together
  from those of expressions.  So headers with the same lexemes are read in
  the same way, by grammars that are deep enough:

      head?_agrees            — headers, on lines of any kind
      simpleStatement_agreesOn — simple statements, all but `pass`

  A `pass` keeps the line that it stands on, and is the only reader of
  places.
-/
import Inlay.Proofs.Agreeing

namespace Inlay.Code

open Reader

variable {n k : Nat} {g g' : Grammar}

/-! ## §1. Patterns. -/

theorem dottedExpr_agrees : Agrees k dottedExpr dottedExpr := by
  unfold dottedExpr
  refine .bind .identifier fun first => .bind (.many ?_) fun rest => .pure _
  exact .ifSign (.bind .identifier fun _ => .pure _) (.pure _)

theorem captureName_agrees : Agrees k captureName captureName := by
  unfold captureName
  exact .bind (.atWord "_") fun _ => .bind (.ensure _) fun _ => .identifier

theorem signedNumber_agrees : Agrees k signedNumber signedNumber := by
  unfold signedNumber
  extract_lets number isImaginary
  have hnumber : Agrees k number number := by
    refine .peek fun x => ?_
    split
    · exact (Agrees.bind .skip fun _ => .pure _).on _
    · exact Agrees.refuse.on _
  refine .bind (.accepts (acceptSign_accepts "-")) fun negative => .bind hnumber fun c => ?_
  refine .bind (signIn?_same _) fun op => ?_
  cases op with
  | none => exact .pure _
  | some op => exact .bind hnumber fun d => .bind (.ensure _) fun _ => .pure _

/-- Neighbouring text constants, as one expression. -/
theorem joinedTexts_agrees (hg : g.AgreesWith n g') (hk : k ≤ n) {α : Type} {f : Expr → Reader α}
    (hf : ∀ e, Agrees k (f e) (f e)) :
    Agrees k (many nextText? >>= fun texts => joinTexts g texts >>= f)
      (many nextText? >>= fun texts => joinTexts g' texts >>= f) := by
  refine texts_agree fun texts htexts => .bind (joinTexts_agrees hg fun t ht => ?_) hf
  have hle := htexts t ht
  omega

theorem literalPattern_agrees (hg : g.AgreesWith n g') (hk : k ≤ n) :
    Agrees k (literalPattern g) (literalPattern g') := by
  unfold literalPattern
  refine .peek fun x => ?_
  split
  · exact (Agrees.bind .skip fun _ => .pure _).on _
  · exact (Agrees.bind .skip fun _ => .pure _).on _
  · exact (Agrees.bind .skip fun _ => .pure _).on _
  · exact (joinedTexts_agrees hg hk fun _ => .pure _).on _
  · exact (Agrees.bind signedNumber_agrees fun _ => .pure _).on _

theorem mappingKey_agrees (hg : g.AgreesWith n g') (hk : k ≤ n) :
    Agrees k (mappingKey g) (mappingKey g') := by
  unfold mappingKey
  refine .peek fun x => ?_
  split
  · exact (Agrees.bind .skip fun _ => .pure _).on _
  · exact (Agrees.bind .skip fun _ => .pure _).on _
  · exact (Agrees.bind .skip fun _ => .pure _).on _
  · have htexts := joinedTexts_agrees hg hk (f := Pure.pure) fun e => .pure e
    simp only [bind_pure] at htexts
    exact htexts.on _
  · refine (Agrees.bind dottedExpr_agrees fun e => ?_).on _
    split
    · exact .pure _
    · exact .refuse
  · exact signedNumber_agrees.on _

section Pattern

variable {p p' : Reader Pattern}

theorem sequenceItem_agrees (hp : Agrees k p p') :
    Agrees k (sequenceItem p) (sequenceItem p') := by
  unfold sequenceItem
  exact .ifSign (.ifWord (.pure _) (.bind .identifier fun _ => .pure _)) hp

theorem patternsUntil_agrees (hp : Agrees k p p') (closer : String) :
    Agrees k (patternsUntil p closer) (patternsUntil p' closer) := by
  unfold patternsUntil
  refine .ifSign (.pure _) (.bind (.commas (sequenceItem_agrees hp)) fun found => ?_)
  exact .bind (.sign closer) fun _ => .pure _

theorem mappingTail_agrees (hg : g.AgreesWith n g') (hk : k ≤ n) (hp : Agrees k p p') :
    Agrees k (mappingTail g p) (mappingTail g' p') := by
  unfold mappingTail
  refine .ifSign (.pure _) (.bind (.commas ?_) fun found => ?_)
  · refine .ifSign (.bind captureName_agrees fun _ => .pure _) ?_
    refine .bind (mappingKey_agrees hg hk) fun key => .bind (.sign ":") fun _ => ?_
    exact .bind hp fun _ => .pure _
  · refine .bind (.sign _) fun _ => ?_
    split
    · exact .pure _
    · exact .bind (.ensure _) fun _ => .pure _
    · exact .refuse

theorem classTail_agrees (hp : Agrees k p p') (cls : Expr) :
    Agrees k (classTail p cls) (classTail p' cls) := by
  unfold classTail
  refine .ifSign (.pure _) (.bind (.commas ?_) fun found => ?_)
  · refine .bind .peekSecond fun _ => .ite ?_ (.bind hp fun _ => .pure _)
    exact .bind .identifier fun _ => .bind .skip fun _ => .bind hp fun _ => .pure _
  · exact .bind (.sign ")") fun _ => .bind (.ensure _) fun _ => .pure _

theorem closedPattern_agrees (hg : g.AgreesWith n g') (hk : k ≤ n) (hp : Agrees k p p') :
    Agrees k (closedPattern g p) (closedPattern g' p') := by
  unfold closedPattern
  refine .peek fun x => ?_
  split
  · refine (Agrees.bind .skip fun _ => .bind (patternsUntil_agrees hp ")") fun found => ?_).on _
    split
    split
    · exact .bind (.ensure _) fun _ => .pure _
    · exact .pure _
  · exact (Agrees.bind .skip fun _ => .bind (patternsUntil_agrees hp "]") fun _ => .pure _).on _
  · exact (Agrees.bind .skip fun _ => mappingTail_agrees hg hk hp).on _
  · refine Agrees.on (.ite (.bind .skip fun _ => .pure _) (.ite (literalPattern_agrees hg hk) ?_)) _
    refine .bind dottedExpr_agrees fun e => .ifSign (classTail_agrees hp e) ?_
    refine .bind (.atSign "=") fun _ => .bind (.ensure _) fun _ => ?_
    split
    · exact .pure _
    · exact .pure _
  · exact (literalPattern_agrees hg hk).on _

theorem patternRule_agrees (hg : g.AgreesWith n g') (hk : k ≤ n) (hp : Agrees k p p') :
    Agrees k (patternRule g p) (patternRule g' p') := by
  have hclosed := closedPattern_agrees hg hk hp
  unfold patternRule
  refine .bind hclosed fun first => .bind (.many ?_) fun rest => ?_
  · exact .ifSign (.bind hclosed fun _ => .pure _) (.pure _)
  · exact .ifWord (.bind captureName_agrees fun _ => .pure _) (.pure _)

end Pattern

theorem patternUpTo_agrees (hg : g.AgreesWith n g') (hk : k ≤ n) (depth : Nat) :
    Agrees k (patternUpTo g depth) (patternUpTo g' depth) := by
  induction depth with
  | zero => exact .refuse
  | succ depth ih => exact patternRule_agrees hg hk ih

theorem casePattern_agrees (hg : g.AgreesWith n g') (hk : k ≤ n) :
    Agrees k (casePattern g) (casePattern g') := by
  unfold casePattern
  refine .get fun us us' hlength => ?_
  rw [hlength]
  refine .bind (.commas (sequenceItem_agrees (patternUpTo_agrees hg hk _))) fun found => ?_
  split
  split
  · exact .bind (.ensure _) fun _ => .pure _
  · exact .pure _

/-! ## §2. Simple statements. -/

theorem valueOf_agrees (hg : g.AgreesWith n g') (hk : k + 2 ≤ n) :
    Agrees k (valueOf g) (valueOf g') := by
  unfold valueOf
  exact .ifWord (yielded_agrees hg hk) (starExpressions_agrees hg hk)

theorem assignment_agrees (hg : g.AgreesWith n g') (hk : k + 2 ≤ n) :
    Agrees k (assignment g) (assignment g') := by
  have hvalue := valueOf_agrees hg hk
  unfold assignment
  refine .bind (.atSign "(") fun _ => .bind hvalue fun first => .ifSign ?_ ?_
  · refine .bind (.ensure _) fun _ => .bind (hg.expression k hk) fun hint => ?_
    exact .bind (.ifSign (.bind hvalue fun _ => .pure _) (.pure _)) fun _ => .pure _
  · refine .bind (signIn?_same _) fun op => ?_
    cases op with
    | some op => exact .bind (.ensure _) fun _ => .bind hvalue fun _ => .pure _
    | none =>
      refine .bind (.many (.ifSign (.bind hvalue fun _ => .pure _) (.pure _))) fun more => ?_
      split
      · exact .pure _
      · exact .bind (.ensure _) fun _ => .pure _

theorem names_agrees : Agrees k names names := by
  unfold names
  refine .bind .identifier fun first => .bind (.many ?_) fun rest => .pure _
  exact .ifSign (.bind .identifier fun _ => .pure _) (.pure _)

theorem dottedName_agrees : Agrees k dottedName dottedName := by
  unfold dottedName
  refine .bind .identifier fun first => .bind (.many ?_) fun rest => .pure _
  exact .ifSign (.bind .identifier fun _ => .pure _) (.pure _)

theorem importName_agrees {what : Reader String} (h : Agrees k what what) :
    Agrees k (importName what) (importName what) := by
  unfold importName
  exact .bind h fun _ => .ifWord (.bind .identifier fun _ => .pure _) (.pure _)

theorem importMembers_agrees : Agrees k importMembers importMembers := by
  have hnames := Agrees.commas (importName_agrees (k := k) .identifier)
  unfold importMembers
  refine .ifSign (.pure _) (.ifSign (.bind hnames fun found => ?_) (.bind hnames fun found => ?_))
  · exact .bind (.sign ")") fun _ => .pure _
  · exact .bind (.ensure _) fun _ => .pure _

theorem importLevel_agrees : Agrees k importLevel importLevel := by
  unfold importLevel
  exact .bind (.many (.ifSign (.pure _) (.ifSign (.pure _) (.pure _)))) fun _ => .pure _

theorem atStatementEnd_agrees : Agrees k atStatementEnd atStatementEnd := by
  unfold atStatementEnd
  exact .bind .atEnd fun _ => .bind (.atSign ";") fun _ => .pure _

/-- A simple statement that does not start with `pass` is read the same wherever it stands. -/
theorem simpleStatement_agreesOn (hg : g.AgreesWith n g') (hk : k + 2 ≤ n) {x : Option Lexeme}
    (hx : x ≠ some (.word "pass")) : AgreesOn x k (simpleStatement g) (simpleStatement g') := by
  have hexpression := hg.expression k hk
  unfold simpleStatement
  refine AgreesOn.peek ?_
  split
  · exact absurd rfl hx
  · exact (Agrees.bind .skip fun _ => .pure _).on _
  · exact (Agrees.bind .skip fun _ => .pure _).on _
  · refine (Agrees.bind .skip fun _ => .bind atStatementEnd_agrees fun _ => ?_).on _
    exact .ite (.pure _) (.bind (starExpressions_agrees hg hk) fun _ => .pure _)
  · refine (Agrees.bind .skip fun _ => .bind atStatementEnd_agrees fun _ => ?_).on _
    refine .ite (.pure _) (.bind hexpression fun e => .ifWord ?_ (.pure _))
    exact .bind hexpression fun _ => .pure _
  · exact (Agrees.bind .skip fun _ => .bind names_agrees fun _ => .pure _).on _
  · exact (Agrees.bind .skip fun _ => .bind names_agrees fun _ => .pure _).on _
  · refine (Agrees.bind .skip fun _ => .bind (.commas (primary_agrees hg ?_)) fun found => ?_).on _
    · omega
    · exact .bind (.ensure _) fun _ => .pure _
  · refine (Agrees.bind .skip fun _ => .bind hexpression fun test => .ifSign ?_ (.pure _)).on _
    exact .bind hexpression fun _ => .pure _
  · refine (Agrees.bind .skip fun _ => .bind (.commas ?_) fun found => ?_).on _
    · exact importName_agrees dottedName_agrees
    · exact .bind (.ensure _) fun _ => .pure _
  · refine (Agrees.bind .skip fun _ => .bind importLevel_agrees fun level => .bind ?_ fun module =>
      .bind (.word "import") fun _ => .bind importMembers_agrees fun _ => .pure _).on _
    refine .bind (.atWord "import") fun _ => .ite (.pure _) ?_
    exact .bind dottedName_agrees fun _ => .pure _
  · exact (assignment_agrees hg hk).on _

/-! ## §3. Headers. -/

theorem forHead_agrees (hg : g.AgreesWith n g') (hk : k + 2 ≤ n) (isAsync : Bool) :
    Agrees k (forHead g isAsync) (forHead g' isAsync) := by
  unfold forHead
  refine .bind (loopTarget_agrees (primary_agrees hg (by omega))) fun target => ?_
  exact .bind (.word "in") fun _ => .bind (starExpressions_agrees hg hk) fun _ => .pure _

theorem withItem_agrees (hg : g.AgreesWith n g') (hk : k + 2 ≤ n) :
    Agrees k (withItem g) (withItem g') := by
  have hprimary := primary_agrees hg (show k ≤ n by omega)
  unfold withItem
  refine .bind (hg.expression k hk) fun e => .ifWord ?_ (.pure _)
  refine .bind (.ifSign (.bind hprimary fun _ => .pure _) hprimary) fun t => ?_
  exact .bind (.ensure _) fun _ => .pure _

theorem withHead_agrees (hg : g.AgreesWith n g') (hk : k + 2 ≤ n) (isAsync : Bool) :
    Agrees k (withHead g isAsync) (withHead g' isAsync) := by
  have hitems := Agrees.commas (withItem_agrees hg hk)
  unfold withHead
  refine .bind (.attempt ?_) fun inParentheses => ?_
  · refine .bind (.sign "(") fun _ => .bind hitems fun found => .bind (.sign ")") fun _ => ?_
    exact .bind (.atSign ":") fun _ => .bind (.ensure _) fun _ => .pure _
  · cases inParentheses with
    | some items => exact .pure _
    | none => exact .bind hitems fun found => .bind (.ensure _) fun _ => .pure _

theorem functionHead_agrees (hg : g.AgreesWith n g') (hk : k + 2 ≤ n) (isAsync : Bool) :
    Agrees k (functionHead g isAsync) (functionHead g' isAsync) := by
  unfold functionHead
  refine .bind .identifier fun name => .bind (.sign "(") fun _ => ?_
  refine .bind (parameters_agrees hg hk true ")") fun ps => .bind (.sign ")") fun _ => ?_
  exact .bind (.ifSign (.bind (hg.expression k hk) fun _ => .pure _) (.pure _)) fun _ => .pure _

theorem classHead_agrees (hg : g.AgreesWith n g') (hk : k + 2 ≤ n) :
    Agrees k (classHead g) (classHead g') := by
  unfold classHead
  refine .bind .identifier fun name => .ifSign ?_ (.pure _)
  exact .bind (argumentsTail_agrees hg hk (primary_agrees hg (by omega)) false) fun _ => .pure _

theorem exceptHead_agrees (hg : g.AgreesWith n g') (hk : k + 2 ≤ n) :
    Agrees k (exceptHead g) (exceptHead g') := by
  unfold exceptHead
  refine .bind (.accepts (acceptSign_accepts "*")) fun isGroup => .bind (.atSign ":") fun _ => ?_
  refine .ite (.bind (.ensure _) fun _ => .pure _) (.bind (hg.expression k hk) fun type => ?_)
  exact .ifWord (.bind .identifier fun _ => .pure _) (.pure _)

theorem matchSubject_agrees (hg : g.AgreesWith n g') (hk : k + 2 ≤ n) :
    Agrees k (matchSubject g) (matchSubject g') := by
  unfold matchSubject
  refine .bind (.commas (starredOr_agrees hg (by omega) (namedExpression_agrees hg hk)))
    fun found => ?_
  split
  split
  · exact .bind (.ensure _) fun _ => .pure _
  · exact .pure _

/-- **Headers with the same lexemes say the same.** -/
theorem head?_agrees (hg : g.AgreesWith n g') (hk : k + 2 ≤ n) (inMatch hasSuite : Bool) :
    Agrees k (head? g inMatch hasSuite) (head? g' inMatch hasSuite) := by
  have htest := namedExpression_agrees hg hk
  unfold head?
  refine .peek fun x => ?_
  split
  · refine Agrees.on (.ite ?_ ?_) _
    · refine .bind (.ensure _) fun _ => .bind .skip fun _ => ?_
      refine .bind (casePattern_agrees hg (by omega)) fun p => ?_
      refine .bind (.ifWord ?_ (.pure _)) fun guard => .pure _
      exact .bind htest fun _ => .pure _
    split
    · exact .bind .skip fun _ => .bind htest fun _ => .pure _
    · exact .bind .skip fun _ => .bind htest fun _ => .pure _
    · exact .bind .skip fun _ => .pure _
    · exact .bind .skip fun _ => .bind htest fun _ => .pure _
    · exact .bind .skip fun _ => .bind (forHead_agrees hg hk false) fun _ => .pure _
    · exact .bind .skip fun _ => .bind (withHead_agrees hg hk false) fun _ => .pure _
    · exact .bind .skip fun _ => .pure _
    · exact .bind .skip fun _ => .bind (exceptHead_agrees hg hk) fun _ => .pure _
    · exact .bind .skip fun _ => .pure _
    · exact .bind .skip fun _ => .bind (functionHead_agrees hg hk false) fun _ => .pure _
    · exact .bind .skip fun _ => .bind (classHead_agrees hg hk) fun _ => .pure _
    · refine .bind .skip fun _ => .ifWord ?_ (.ifWord ?_ (.ifWord ?_ .refuse))
      · exact .bind (functionHead_agrees hg hk true) fun _ => .pure _
      · exact .bind (forHead_agrees hg hk true) fun _ => .pure _
      · exact .bind (withHead_agrees hg hk true) fun _ => .pure _
    · refine .ite ?_ (.pure _)
      exact .bind .skip fun _ => .bind (matchSubject_agrees hg hk) fun _ => .pure _
    · exact .pure _
  · exact (Agrees.bind (.ensure _) fun _ => .pure _).on _

end Inlay.Code

/-
  Inlay.Proofs.Origins
  ────────────────────────────────
  **WHERE A MALFORMED SOURCE COMES FROM.**

  Every report of a source that is not compiled tells the file that the source
  comes from, and a line of it:

      a marker without an end — the line of its opener
      a token out of place    — the line of the token
      code that is refused    — the line of a head of the tree, which was a token

  It tells the name of the template as well, with one exception.  Whoever cuts
  a source into tokens does not know its name, so the report of a marker
  without an end has none.
-/
import Inlay.Proofs.Misplaced
import Inlay.Proofs.Offsets
import Inlay.Proofs.Refusing

namespace Inlay

open Inlay.Diagnostic Inlay.Program

/-! ## §1. Lines. -/

/-- Is it the number of one of the lines that the newlines of a source make? -/
def IsLineOf (source : String) (n : Int) : Prop := 1 ≤ n ∧ n ≤ 1 + source.toList.count '\n'

/-- The place behind the front of a source is on one of its lines. -/
theorem isLineOf_after {source : String} {front : List Char} (h : front <+: source.toList) :
    IsLineOf source (Position.start.after front).line := by
  have hcount := h.sublist.count_le '\n'
  rw [Position.after_start]
  constructor <;> dsimp only <;> omega

theorem IsLineOf.of_prefix {s source : String} {n : Int} (h : IsLineOf s n)
    (hfront : s.toList <+: source.toList) : IsLineOf source n := by
  have hcount := hfront.sublist.count_le '\n'
  obtain ⟨hfirst, hlast⟩ := h
  exact ⟨hfirst, by omega⟩

section Scanning

variable {source : String}

/-- Every token begins on a line of its source. -/
theorem isLineOf_of_mem_tokens {tokens : List Token} {t : Token}
    (h : tokenize source = .ok tokens) (ht : t ∈ tokens) : IsLineOf source t.position.line := by
  obtain ⟨stretches, hstand, hflatten⟩ := stand_of_tokenize h
  obtain ⟨before, s, behind, hsource, -, hposition⟩ := hstand.position_of_mem ht
  rw [hposition]
  exact isLineOf_after ⟨s ++ behind, by rw [← hsource, hflatten]⟩

/-- So does an opener without an end. -/
theorem isLineOf_of_unterminated {u : Unterminated} (h : tokenize source = .error u) :
    IsLineOf source u.token.position.line := by
  have hspell := scan_spells source.toList
  unfold tokenize at h
  dsimp only at h
  split at h
  · cases h
  · rename_i kind hdangling
    obtain rfl := Except.error.inj h
    rw [hdangling] at hspell
    obtain ⟨s, -, hsource⟩ := hspell
    exact isLineOf_after ⟨_, hsource.symm⟩

end Scanning

/-! ## §2. Tokens at fault. -/

theorem mem_of_mem_significant {ts : List Token} {t : Token} (h : t ∈ significant ts) : t ∈ ts :=
  (List.takeWhile_prefix _).subset (List.mem_filter.1 h).1

/-- **What is refused by the parser is one of the tokens**: the first one that is out of place, or
the opener of a block that is left open. -/
theorem token_mem_of_parse {name : Option String} {tokens : List Token} {f : ParseFault}
    (h : parse name tokens = .error f) : f.token ∈ tokens := by
  obtain ⟨herror, hok⟩ := hasRead_start.takeAll tokens
  rw [List.nil_append] at herror hok
  apply mem_of_mem_significant
  unfold parse parseBody at h
  cases hall : Builder.takeAll ⟨[], []⟩ tokens with
  | error e =>
    rw [hall] at h
    obtain rfl := Except.error.inj h
    obtain ⟨before, after, htokens, -⟩ := (herror e hall).1
    rw [htokens]
    exact List.mem_append_right _ List.mem_cons_self
  | ok b =>
    rw [hall] at h
    obtain ⟨root, stack⟩ := b
    cases stack with
    | nil => cases h
    | cons top rest =>
      obtain rfl := Except.error.inj h
      obtain ⟨behind, hsuffix, -⟩ := (hok _ hall).pending.last
      exact hsuffix.subset List.mem_cons_self

/-! ## §3. Reports. -/

/-- Does a report tell the file of a template, a line of its source, and, unless it is about a
marker without an end, its name? -/
structure Tells (r : Malformed) (source : String) (name filename : Option String) : Prop where
  filename : r.filename = filename
  name : r.name = if (Report.malformed r).errorClass = .templateMarker then none else name
  line : ∃ n, r.line = some n ∧ IsLineOf source n

section Stages

variable {o : Origin} {source : String}

theorem tells_markerReport {u : Unterminated} (h : tokenize source = .error u) :
    Tells (markerReport o.filename source u) source o.name o.filename :=
  ⟨rfl, rfl, _, rfl, isLineOf_of_unterminated h⟩

theorem tells_tokenReport {tokens : List Token} {f : ParseFault}
    (htokens : tokenize source = .ok tokens) (hparse : parse o.name tokens = .error f) :
    Tells (tokenReport o f) source o.name o.filename :=
  ⟨rfl, rfl, _, rfl, isLineOf_of_mem_tokens htokens (token_mem_of_parse hparse)⟩

theorem tells_faultReport (f : Fault) {p : Position} (hp : IsLineOf source p.line) :
    Tells (faultReport o f p) source o.name o.filename :=
  ⟨rfl, rfl, _, rfl, hp⟩

/-- A source without a tree is reported by whoever cuts it into tokens, or by the parser. -/
theorem tells_of_treeOfSource {r : Malformed} (h : treeOfSource o source = .error r) :
    Tells r source o.name o.filename := by
  unfold treeOfSource tokensOfSource at h
  cases htokens : tokenize source with
  | error u =>
    rw [htokens] at h
    obtain rfl := Except.error.inj h
    exact tells_markerReport htokens
  | ok tokens =>
    rw [htokens] at h
    replace h : (parse o.name tokens).mapError (tokenReport o) = .error r := h
    cases hparse : parse o.name tokens with
    | error f =>
      rw [hparse] at h
      obtain rfl := Except.error.inj h
      exact tells_tokenReport htokens hparse
    | ok t =>
      rw [hparse] at h
      cases h

/-- Every head of the tree of a source begins on one of its lines. -/
theorem isLineOf_heads {t : Template Unit} (h : treeOfSource o source = .ok t) :
    ∀ head ∈ bodyHeads t.body, IsLineOf source head.1.line := by
  obtain ⟨tokens, htokens, hparse⟩ := treeOfSource_ok_iff.1 h
  exact heads_of_parse (P := fun p _ => IsLineOf source p.line)
    (fun t ht _ _ => isLineOf_of_mem_tokens htokens ht)
    (fun t ht _ => isLineOf_of_mem_tokens htokens ht) hparse

/-- A tree without a program is reported at one of its heads, if it is reported. -/
theorem tells_of_programOfTree {t : Template Unit} {r : Malformed}
    (htree : treeOfSource o source = .ok t) (h : programOfTree o t = .error (.reported r)) :
    Tells r source o.name o.filename := by
  unfold programOfTree at h
  cases hbuild : build t with
  | ok program =>
    rw [hbuild] at h
    cases h
  | error refusal =>
    rw [hbuild] at h
    replace h := Except.error.inj h
    rcases refusal_of_build hbuild with hpart | ⟨program, regions, -, hrefusal⟩
    · cases hpart with
      | faulty hhead f =>
        obtain rfl := CompileFault.reported.inj h
        exact tells_faultReport f (isLineOf_heads htree _ hhead)
      | nul hhead hnul => cases h
      | buried line => cases h
      | tooDeep whenRead => cases h
    · -- what is refused as a whole has no report
      rcases refusal?_cases hrefusal with rfl | ⟨_, rfl⟩ | ⟨_, rfl⟩ | rfl <;> cases h

theorem tells_of_programOfSource {r : Malformed}
    (h : programOfSource o source = .error (.reported r)) :
    Tells r source o.name o.filename := by
  cases htree : treeOfSource o source with
  | error r' =>
    rw [programOfSource_of_malformed htree] at h
    obtain rfl := CompileFault.reported.inj (Except.error.inj h)
    exact tells_of_treeOfSource htree
  | ok t =>
    rw [programOfSource_of_tree htree] at h
    exact tells_of_programOfTree htree h

end Stages

/-! ## §4. Environments. -/

/-- A syntax error of a template that is compiled has a report that tells where it comes from. -/
theorem tells_of_compile {env : Environment} {source : String} {name filename : Option String}
    {e : Exc} (h : env.compile source name filename = .error e)
    (hclass : e.cls.isA .templateSyntax = true) :
    ∃ r, e = .ofReport (.malformed r) ∧ Tells r source name filename := by
  unfold Environment.compile at h
  dsimp only at h
  split at h
  · rename_i f hprogram
    obtain rfl := Except.error.inj h
    obtain ⟨r, rfl⟩ := (isA_compileExc f).1 hclass
    have htells := tells_of_programOfSource hprogram
    -- compiling may drop the last line, and no other one
    obtain ⟨n, hn, hline⟩ := htells.line
    exact ⟨r, rfl, htells.filename, htells.name, n, hn,
      hline.of_prefix (prepared_isPrefix env source)⟩
  · cases h

theorem World.compile_error {w : World} {source : String} {name filename : Option String} {e : Exc}
    (h : w.compile source name filename = .error e) :
    w.environment.compile source name filename = .error e := by
  unfold World.compile at h
  cases hcompile : w.environment.compile source name filename with
  | ok t =>
    rw [hcompile] at h
    cases h
  | error e' =>
    rw [hcompile] at h
    exact congrArg Except.error (Except.error.inj h)

/-- A name for which the loader has a source fails only if compiling does. -/
theorem World.fetch_error {w : World} {l : Loader} {answer : Source} {name : String} {e : Exc}
    (hl : w.environment.loader = some l) (hanswer : l.source name = .ok answer)
    (h : w.fetch name = .error e) :
    w.environment.compile answer.text (some name) answer.filename = .error e := by
  have hload : w.environment.load name
      = w.environment.compile answer.text (some name) answer.filename := by
    unfold Environment.load
    rw [hl]
    dsimp only
    rw [hanswer]
  unfold World.fetch at h
  split at h
  · cases h
  · rw [hload] at h
    cases hcompile : w.environment.compile answer.text (some name) answer.filename with
    | ok t =>
      rw [hcompile] at h
      cases h
    | error e' =>
      rw [hcompile] at h
      exact congrArg Except.error (Except.error.inj h)

/-- **WHAT THE REPORT OF A MALFORMED SOURCE TELLS.**  If compiling a source, or the source that a
loader has for a name, ends in a syntax error of templates, the error carries a report.  It tells the
file of the source and one of its lines; and it tells the name of the template unless it is about a
marker without an end, when it tells none. -/
theorem report_tells_origin (w : World) :
    (∀ source name filename e, w.compile source name filename = .error e →
      e.cls.isA .templateSyntax = true →
      ∃ r, e = .ofReport (.malformed r) ∧ Tells r source name filename)
    ∧ ∀ l name answer e, w.environment.loader = some l → l.source name = .ok answer →
      w.fetch name = .error e → e.cls.isA .templateSyntax = true →
      ∃ r, e = .ofReport (.malformed r) ∧ Tells r answer.text (some name) answer.filename :=
  ⟨fun _ _ _ _ h => tells_of_compile (World.compile_error h),
    fun _ _ _ _ hl hanswer h => tells_of_compile (World.fetch_error hl hanswer h)⟩

/-- The report of a source that is not compiled, if it has one. -/
def reportOf? (o : Origin) (source : String) : Option Malformed :=
  match programOfSource o source with
  | .error (.reported r) => some r
  | _ => none

theorem compile_reported {env : Environment} {source : String} {name filename : Option String}
    {r : Malformed} (henv : env.prepared source = source)
    (h : reportOf? ⟨name, filename, some source⟩ source = some r) :
    env.compile source name filename = .error (.ofReport (.malformed r)) := by
  unfold reportOf? at h
  unfold Environment.compile
  rw [henv]
  dsimp only
  split at h
  · rename_i r' hprogram
    obtain rfl := Option.some.inj h
    rw [hprogram]
    rfl
  · cases h

/-- A world whose loader has one source, with a stray `end` on its second line. -/
def strayEndWorld : World :=
  { environment := { loader := some (.lookup fun _ =>
      .ok (some (.filed "a\n<% end %>" (some "page.html")))) } }

/-- A marker without an end is reported without the name of the template, and an `end` out of place
with it. -/
theorem report_tells_origin_twice :
    (∃ r, ({} : World).compile "<%= x" (some "page") none = .error (.ofReport (.malformed r))
        ∧ Tells r "<%= x" (some "page") none ∧ r.name = none)
      ∧ ∃ r, strayEndWorld.fetch "page" = .error (.ofReport (.malformed r))
        ∧ Tells r "a\n<% end %>" (some "page") (some "page.html") ∧ r.name = some "page" := by
  have hclass : ∀ r, (Exc.ofReport (.malformed r)).cls.isA .templateSyntax = true := fun r =>
    (isA_compileExc (.reported r)).2 ⟨r, rfl⟩
  constructor
  · have hreport : reportOf? ⟨some "page", none, some "<%= x"⟩ "<%= x"
        = some (markerReport none "<%= x" ⟨"<%=", ⟨.marker .output, "", ⟨1, 0⟩⟩⟩) := by
      decide +kernel
    have hcompile : ({} : World).compile "<%= x" (some "page") none
        = .error (.ofReport (.malformed _)) :=
      congrArg (Except.map _) (compile_reported rfl hreport)
    obtain ⟨r, hr, htells⟩ := (report_tells_origin {}).1 _ _ _ _ hcompile (hclass _)
    obtain rfl := Report.malformed.inj (Option.some.inj (congrArg Exc.report hr))
    exact ⟨_, hcompile, htells, rfl⟩
  · have hreport : reportOf? ⟨some "page", some "page.html", some "a\n<% end %>"⟩ "a\n<% end %>"
        = some (tokenReport ⟨some "page", some "page.html", some "a\n<% end %>"⟩
          ⟨.unexpectedEnd, ⟨.marker .silent, "end", ⟨2, 0⟩⟩⟩) := by
      decide +kernel
    have hfetch : strayEndWorld.fetch "page" = .error (.ofReport (.malformed _)) :=
      congrArg (Except.map _) (compile_reported rfl hreport)
    obtain ⟨r, hr, htells⟩ := (report_tells_origin strayEndWorld).2 _ "page"
      ⟨"a\n<% end %>", some "page.html"⟩ _ rfl rfl hfetch (hclass _)
    obtain rfl := Report.malformed.inj (Option.some.inj (congrArg Exc.report hr))
    exact ⟨_, hfetch, htells, rfl⟩

end Inlay

import FeatureAudit.Corpus.Parser
import FeatureAudit.Proofs.Text.Utf8

/-!
# A file is parsed as its text is

Parsing a file decodes its octets, leaves out a byte order mark, turns its line ends into line feeds
and cuts the rest into lines. The lines are those of the text that the file holds
(`Source.read_of_holds`), and parsing a text looks at nothing but its lines (`Form.read_congr`), so
parsing the file and parsing the text come to the same (`Form.parseFile_of_holds`).
-/

set_option autoImplicit false

namespace FeatureAudit

/-! ## Parsing depends on lines -/

namespace Form

variable {text text' : String}

theorem read_congr (h : Text.lines text = Text.lines text') (form : Form) (path : String) :
    form.read text path = form.read text' path := by
  have hplain : Document.read text path = Document.read text' path := by
    rw [Document.read, Document.read, h]
  cases form with
  | plain => exact hplain
  | scripted => rw [read, read, Dialect.read, Dialect.read, hplain, h]

theorem ofText_congr (h : Text.lines text = Text.lines text') (detect : Bool) (path : String) :
    ofText detect text path = ofText detect text' path := by
  rw [ofText, ofText, h]

end Form

/-! ## The lines of a file -/

/-- A file that holds a text is read, and has the lines of the text. -/
theorem Source.read_of_holds {t : FileTree} {p : SourcePath} {octets : List UInt8} {text : String}
    (hread : t.read p = .ok octets) (h : Text.Utf8.Holds octets text) :
    ∃ stored, Source.read t p = .ok stored ∧ Text.lines stored = Text.lines text := by
  refine ⟨_, ?_, Text.Utf8.lines_unifyNewlines text⟩
  rw [Source.read, Source.readWith, hread]
  simp only [Text.Utf8.readMarkedText_of_holds h]

namespace Form

/-- A file that holds a text, with a byte order mark or without one, is parsed in every form as the
text is, notes on the dialect included, and it tells the form that the text tells. Its lines are
those of the text, with the same numbers, whatever line ends it has. -/
theorem parseFile_of_holds {t : FileTree} {p : SourcePath} {octets : List UInt8} {text : String}
    (hread : t.read p = .ok octets) (h : Text.Utf8.Holds octets text) :
    (∀ form, parseFile t p form = .ok (form.read text p.text)) ∧
      (∀ detect, parseAt t detect p = .ok ((ofText detect text p.text).read text p.text)) ∧
      ∃ stored, Source.read t p = .ok stored ∧ Text.lines stored = Text.lines text := by
  obtain ⟨stored, hstored, hlines⟩ := Source.read_of_holds hread h
  refine ⟨fun form => ?_, fun detect => ?_, stored, hstored, hlines⟩
  · rw [parseFile_eq, hstored, ← read_congr hlines]
    rfl
  · rw [parseAt_eq, hstored, ← ofText_congr hlines, ← read_congr hlines]
    rfl

/-- A document in the dialect with every kind of line end, the last line without one. -/
def request : String := "Feature:\r\r\nScenario: ü\n\r* url x\r\n* def y"

/-- A tree with this document, behind a byte order mark. -/
def drawer : FileTree :=
  { files := [(["a.feature"], Text.Utf8.byteOrderMark ++ request.toUTF8.data.toList)] }

theorem parseFile_of_holds_drawer :
    drawer.read (.ofText "a.feature") =
        .ok (Text.Utf8.byteOrderMark ++ request.toUTF8.data.toList) ∧
      Text.Utf8.Holds (Text.Utf8.byteOrderMark ++ request.toUTF8.data.toList) request ∧
      (∀ form, parseFile drawer (.ofText "a.feature") form = .ok (form.read request "a.feature")) ∧
      (scripted.read request "a.feature").metadata.map Prod.fst =
        ["dialect", "hasRequestSteps", "hasEmbeddedScript"] ∧
      Text.lines request = ["Feature:", "", "Scenario: ü", "", "* url x", "* def y"] := by
  have hread : drawer.read (.ofText "a.feature") =
      .ok (Text.Utf8.byteOrderMark ++ request.toUTF8.data.toList) := by
    rfl
  have hholds : Text.Utf8.Holds (Text.Utf8.byteOrderMark ++ request.toUTF8.data.toList) request :=
    Or.inr rfl
  exact ⟨hread, hholds, (parseFile_of_holds hread hholds).1, by decide +kernel, by decide +kernel⟩

end Form

end FeatureAudit

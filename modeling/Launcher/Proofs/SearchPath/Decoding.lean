-- SUMMARY: A published search path is cut at its separator into the segments that were published exactly when none of them holds the separator.
import Launcher.Proofs.SearchPath.History
import Launcher.Proofs.Text.Split

/-!
# Reading a search path back

What is published is one text, with a separator in front of each segment. Whoever reads it cuts it at
the separators. The pieces are those of the text that there was at first and then those of each
segment. So every segment is read back as the one piece that it went in as, or some segment holds the
separator and nobody can tell.
-/
namespace Launcher

/-! ## The pieces of a published text -/

/-- The pieces of a text with segments behind it are those of the text, and then those of each
    segment. -/
theorem SearchPath.pieces_append_suffix {c : Char} {separator : String}
    (hsep : separator.toList = [c]) (value : String) (segments : List String) :
    Text.pieces separator (value ++ suffix separator segments) =
      Text.pieces separator value ++ segments.flatMap (Text.pieces separator) := by
  induction segments generalizing value with
  | nil => simp [suffix]
  | cons segment segments ih =>
    have hsuffix : suffix separator (segment :: segments) =
        separator ++ (segment ++ suffix separator segments) := by
      simp [suffix, String.append_assoc]
    rw [hsuffix, Text.pieces_append hsep, ih segment, List.flatMap_cons]

/-! ## What calls publish -/

namespace Call

/-- The segments that a call publishes. An addition that ends early publishes none. -/
def segments (h : Host) : Call → List String
  | addPath value =>
    let e := Extension.ofPath h value
    if e.fault.isNone then e.segments else []
  | _ => []

theorem effect_value (h : Host) (c : Context) (call : Call) :
    (call.effect h c).path.value =
      c.path.value ++ SearchPath.suffix c.path.separator (call.segments h) := by
  have hnothing : c.path.value = c.path.value ++ SearchPath.suffix c.path.separator [] := by
    simp [SearchPath.suffix]
  cases call with
  | addPath value =>
    unfold effect segments Context.addPath
    simp only
    split
    · rfl
    · exact hnothing
  | addUrl target => exact hnothing
  | find | activate | deactivate => exact hnothing

theorem effect_separator (h : Host) (c : Context) (call : Call) :
    (call.effect h c).path.separator = c.path.separator := by
  cases call with
  | addPath value =>
    unfold effect Context.addPath
    simp only
    split
    · rfl
    · rfl
  | addUrl target => rfl
  | find | activate | deactivate => rfl

end Call

/-- The worlds that a context can come to whose search path had a text and a separator at first, with
    the segments that have been published since, in order. They are those of the assembly that the
    context was made of, if any, and those of the calls on it. -/
inductive Published (id : Nat) : String → String → List String → World → Prop
  | opened {w : World} {c : Context} :
    w.context? id = some c → Published id c.path.value c.path.separator [] w
  | assembled {w : World} {env : Environment} {home : Option Path} {a : Assembly} :
    w.context? id = some (.ofAssembly env home a) →
      Published id env.searchPath env.separator a.segments w
  | called {initial separator : String} {segments : List String} {w w' : World}
    {ending : Except Raised Unit} (call : Call) :
    Published id initial separator segments w → (call.launch id).execute w = (ending, w') →
      Published id initial separator (segments ++ call.segments w.host) w'
  | elsewhere {initial separator : String} {segments : List String} {w w' : World} :
    Published id initial separator segments w → w.Spares id w' →
      Published id initial separator segments w'

/-- The text of the search path is the first one, and the published segments behind it. -/
theorem Published.value {id : Nat} {initial separator : String} {segments : List String} {w : World}
    (h : Published id initial separator segments w) :
    ∃ c, w.context? id = some c ∧ c.path.separator = separator ∧
      c.path.value = initial ++ SearchPath.suffix separator segments := by
  induction h with
  | opened hc => exact ⟨_, hc, rfl, by simp [SearchPath.suffix]⟩
  | assembled hc => exact ⟨_, hc, rfl, rfl⟩
  | called call _ hrun ih =>
    obtain ⟨c, hc, hseparator, hvalue⟩ := ih
    obtain ⟨ending, w', hrun', hc'⟩ := call.execute_launch hc
    cases hrun.symm.trans hrun'
    refine ⟨_, hc', (call.effect_separator _ c).trans hseparator, ?_⟩
    rw [call.effect_value, hseparator, hvalue, SearchPath.suffix_append, String.append_assoc]
  | elsewhere _ hspares ih =>
    obtain ⟨c, hc, hseparator, hvalue⟩ := ih
    obtain ⟨c₀, c', hc₀, hc', hpath, -⟩ := hspares
    cases hc.symm.trans hc₀
    exact ⟨c', hc', by rw [hpath, hseparator], by rw [hpath, hvalue]⟩

/-- Whatever was published for a context with a separator of one character, the text of its search
    path is cut there into the pieces of the first text and behind them the segments, each as one piece
    and in order, if and only if no segment holds the separator. -/
theorem published_pieces_iff {id : Nat} {initial separator : String} {segments : List String}
    {w : World} {c : Char} (hsep : separator.toList = [c])
    (h : Published id initial separator segments w) :
    ∃ context, w.context? id = some context ∧
      (Text.pieces separator context.path.value = Text.pieces separator initial ++ segments ↔
        ∀ segment ∈ segments, Text.has c segment = false) := by
  obtain ⟨context, hcontext, -, hvalue⟩ := h.value
  refine ⟨context, hcontext, ?_⟩
  rw [hvalue, SearchPath.pieces_append_suffix hsep, List.append_cancel_left_eq]
  exact Text.flatMap_pieces_eq_self_iff hsep

/-- An assembly of one archive. -/
def colonAssembly : Assembly where
  locators := [⟨"/lib/a.zip", "file:///lib/a.zip"⟩]
  segments := ["/lib/a.zip"]

/-- A process with the context of an assembly, and two archives of which one has the separator in its
    name. -/
def colonWorld : World where
  host :=
    { cwd := "/work"
      files :=
        { entries :=
            [(["srv"], .plainDirectory), (["srv", "b.zip"], { kind := .file .malformed }),
              (["srv", "c:d.zip"], { kind := .file .malformed })]
          distinct := by decide
          named := by decide } }
  style := .ofVariables [] (.ofInt 0)
  contexts := [⟨.ofAssembly { searchPath := "old::" } none colonAssembly, false⟩]

/-- The world after one of them was added. -/
def colonPublished (text : String) : World :=
  (((Call.addPath (.text text)).launch 0).execute colonWorld).2

theorem published_pieces_iff_colon :
    (":".toList = [':'] ∧
      Published 0 "old::" ":" ["/lib/a.zip", "/srv/b.zip"] (colonPublished "/srv/b.zip") ∧
      Published 0 "old::" ":" ["/lib/a.zip", "/srv/c:d.zip"] (colonPublished "/srv/c:d.zip")) ∧
    (∃ c, (colonPublished "/srv/b.zip").context? 0 = some c ∧
      Text.pieces ":" c.path.value = ["old", "", "", "/lib/a.zip", "/srv/b.zip"]) ∧
    ∃ c, (colonPublished "/srv/c:d.zip").context? 0 = some c ∧
      Text.pieces ":" c.path.value ≠ ["old", "", "", "/lib/a.zip", "/srv/c:d.zip"] := by
  have hc : colonWorld.context? 0 =
      some (.ofAssembly { searchPath := "old::" } none colonAssembly) := rfl
  have hassembled : Published 0 "old::" ":" ["/lib/a.zip"] colonWorld := .assembled hc
  have hadded (text : String)
      (htext : (Call.addPath (.text text)).segments colonWorld.host = [text]) :
      Published 0 "old::" ":" ["/lib/a.zip", text] (colonPublished text) :=
    htext ▸ .called (.addPath (.text text)) hassembled (Prod.eta _).symm
  have hplain := hadded "/srv/b.zip" (by rfl)
  have hcolon := hadded "/srv/c:d.zip" (by rfl)
  have hinitial : Text.pieces ":" "old::" = ["old", "", ""] := by rfl
  refine ⟨⟨rfl, hplain, hcolon⟩, ?_, ?_⟩
  · obtain ⟨c, hc, hiff⟩ := published_pieces_iff rfl hplain
    refine ⟨c, hc, ?_⟩
    rw [hiff.mpr (by decide), hinitial]
    rfl
  · obtain ⟨c, hc, hiff⟩ := published_pieces_iff rfl hcolon
    refine ⟨c, hc, fun hpieces => ?_⟩
    have hfree := hiff.mp (by rw [hpieces, hinitial]; rfl) "/srv/c:d.zip" (by simp)
    revert hfree
    decide

end Launcher

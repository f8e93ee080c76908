import Mathlib
import PluginDiscovery.Proofs.DiscoveryReference
import PluginDiscovery.Proofs.Utf8Encoding
import PluginDiscovery.Proofs.WellNamedTrees

/-!
# Reading a dump

A dump has a line for each plugin, with tabs between the four fields and a newline behind them.
Nothing in a field is escaped, and a field can hold any text: a file may have a tab in its name, and a
module may export a version of two lines. So a dump is read by its separators as what it was written
from if no field has a separator in it, and not otherwise.

* `Dump.lines`, `Dump.read`: a text cut at its newlines, and the lines at their tabs;
* `Description.Plain`: no field has a separator in it;
* `Dump.read_text_iff`: the texts that are read as they were written;
* `Dump.length_lines_text`: a newline in a field is a line more;
* `dump_read_iff_plain`: all of it for contexts, with contexts that share a dump at the end.
-/

namespace PluginDiscovery

/-! ## 1. Fields -/

namespace Description

/-- The fields of a line. -/
def fields (d : Description) : List String :=
  [d.name, d.version, d.types, d.path]

/-- No field has a separator in it. -/
def Plain (d : Description) : Prop :=
  ∀ field ∈ d.fields, '\t' ∉ field.toList ∧ '\n' ∉ field.toList

instance (d : Description) : Decidable d.Plain :=
  inferInstanceAs (Decidable (∀ field ∈ d.fields, '\t' ∉ field.toList ∧ '\n' ∉ field.toList))

/-- How many newlines are in the fields. -/
def newlines (d : Description) : Nat :=
  (d.fields.map fun field => field.toList.count '\n').sum

/-- What is written of a plugin in front of the newline. -/
def body (d : Description) : List Char :=
  ['\t'].intercalate (d.fields.map String.toList)

theorem toList_line (d : Description) : d.line.toList = d.body ++ ['\n'] := by
  simp [line, pieces, body, fields, List.intercalate]

theorem count_body (d : Description) : d.body.count '\n' = d.newlines := by
  simp [body, newlines, fields, List.intercalate]

theorem newline_notMem_body {d : Description} (h : d.Plain) : '\n' ∉ d.body := by
  have none : d.newlines = 0 := by
    rw [newlines, List.sum_eq_zero_iff]
    intro count hcount
    obtain ⟨field, hfield, rfl⟩ := List.mem_map.mp hcount
    exact List.count_eq_zero.mpr (h field hfield).2
  rw [← List.count_eq_zero, count_body, none]

theorem fields_injective : Function.Injective fields := by
  rintro ⟨name, version, types, path⟩ ⟨name', version', types', path'⟩ same
  simpa [fields] using same

end Description

/-! ## 2. Reading -/

namespace Dump

/-- The lines of a text, which are what stands before each of its newlines. -/
def lines (text : String) : List (List Char) :=
  (text.toList.splitOn '\n').dropLast

/-- The fields of a line, which are what stands between its tabs. -/
def cells (line : List Char) : List String :=
  (line.splitOn '\t').map String.ofList

/-- The fields of each line of a text. -/
def read (text : String) : List (List String) :=
  (lines text).map cells

/-- The text with a line for each description. -/
def text (ds : List Description) : String :=
  String.join (ds.map Description.line)

/-- The pieces have characters of the text, and no separator. -/
theorem mem_of_mem_splitOn {sep c : Char} {cs piece : List Char} (h : piece ∈ cs.splitOn sep)
    (hc : c ∈ piece) : c ∈ cs ∧ c ≠ sep := by
  induction cs generalizing piece with
  | nil =>
    rw [List.mem_singleton.mp h] at hc
    exact absurd hc List.not_mem_nil
  | cons first rest ih =>
    have later {piece : List Char} (h : piece ∈ rest.splitOn sep) (hc : c ∈ piece) :
        c ∈ first :: rest ∧ c ≠ sep :=
      ⟨List.mem_cons_of_mem first (ih h hc).1, (ih h hc).2⟩
    rw [List.splitOn_cons_eq_if_modifyHead] at h
    split at h
    · rcases List.mem_cons.mp h with rfl | h
      · exact absurd hc List.not_mem_nil
      · exact later h hc
    · rename_i other
      obtain ⟨head, tail, split⟩ := List.exists_cons_of_ne_nil (List.splitOn_ne_nil sep rest)
      rw [split, List.modifyHead_cons] at h
      rcases List.mem_cons.mp h with rfl | h
      · rcases List.mem_cons.mp hc with rfl | hc
        · exact ⟨List.mem_cons_self, fun same => other (beq_iff_eq.mpr same)⟩
        · exact later (split ▸ List.mem_cons_self) hc
      · exact later (split ▸ List.mem_cons_of_mem head h) hc

theorem length_splitOn (sep : Char) (cs : List Char) :
    (cs.splitOn sep).length = cs.count sep + 1 := by
  induction cs with
  | nil => rfl
  | cons c rest ih =>
    rw [List.splitOn_cons_eq_if_modifyHead, List.count_cons]
    split
    · rw [List.length_cons, ih]
    · rw [List.length_modifyHead, ih, Nat.add_zero]

/-- The lines of a text that was written are the lines of its bodies. -/
theorem lines_text (ds : List Description) :
    lines (text ds) = ds.flatMap fun d => d.body.splitOn '\n' := by
  induction ds with
  | nil => rfl
  | cons d rest ih =>
    have cut : (text (d :: rest)).toList = d.body ++ '\n' :: (text rest).toList := by
      rw [text, List.map_cons, String.join_cons, String.toList_append, d.toList_line,
        List.append_assoc, List.singleton_append]
      rfl
    rw [lines, cut, List.splitOn_append_cons_self,
      List.dropLast_append_of_ne_nil (List.splitOn_ne_nil _ _), List.flatMap_cons, ← ih]
    rfl

/-- **There is a line for each description, and one more for each newline in a field.** -/
theorem length_lines_text (ds : List Description) :
    (lines (text ds)).length = ds.length + (ds.map Description.newlines).sum := by
  rw [lines_text]
  induction ds with
  | nil => rfl
  | cons d rest ih =>
    rw [List.flatMap_cons, List.length_append, ih, length_splitOn, d.count_body, List.length_cons,
      List.map_cons, List.sum_cons]
    omega

/-- What is read has no separator in it. -/
theorem plain_of_mem_read {text : String} {row : List String} (hrow : row ∈ read text)
    {field : String} (hfield : field ∈ row) : '\t' ∉ field.toList ∧ '\n' ∉ field.toList := by
  obtain ⟨line, hline, rfl⟩ := List.mem_map.mp hrow
  obtain ⟨piece, hpiece, rfl⟩ := List.mem_map.mp hfield
  rw [String.toList_ofList]
  refine ⟨fun tab => (mem_of_mem_splitOn hpiece tab).2 rfl, fun newline => ?_⟩
  have inLine := (mem_of_mem_splitOn hpiece newline).1
  exact (mem_of_mem_splitOn (List.dropLast_subset _ hline) inLine).2 rfl

/-- A body without separators in its fields is read as its fields. -/
theorem cells_body {d : Description} (h : d.Plain) : cells d.body = d.fields := by
  have tabless : ∀ field ∈ d.fields.map String.toList, '\t' ∉ field := by
    intro field hfield
    obtain ⟨s, hs, rfl⟩ := List.mem_map.mp hfield
    exact (h s hs).1
  rw [cells, Description.body, List.splitOn_intercalate '\t' tabless (List.cons_ne_nil _ _),
    List.map_map]
  exact (List.map_congr_left fun s _ => String.ofList_toList).trans (List.map_id _)

/-- **Descriptions are read back if no field has a separator in it, and not otherwise.** -/
theorem read_text_iff (ds : List Description) :
    read (text ds) = ds.map Description.fields ↔ ∀ d ∈ ds, d.Plain := by
  constructor
  · intro same d hd field hfield
    have written : d.fields ∈ read (text ds) := same ▸ List.mem_map_of_mem hd
    exact plain_of_mem_read written hfield
  · intro plain
    have bodies : lines (text ds) = ds.map Description.body := by
      rw [lines_text, ← List.flatMap_singleton' (ds.map Description.body), List.flatMap_map]
      refine List.flatMap_congr fun d hd => ?_
      rw [List.splitOn_eq_singleton (Description.newline_notMem_body (plain d hd))]
    rw [read, bodies, List.map_map]
    exact List.map_congr_left fun d hd => cells_body (plain d hd)

/-- Descriptions without separators have a text of their own. -/
theorem text_inj {ds es : List Description} (hds : ∀ d ∈ ds, d.Plain) (hes : ∀ d ∈ es, d.Plain) :
    text ds = text es ↔ ds = es := by
  refine ⟨fun same => Description.fields_injective.list_map ?_, fun same => same ▸ rfl⟩
  rw [← (read_text_iff ds).mpr hds, ← (read_text_iff es).mpr hes, same]

end Dump

/-! ## 3. All of it -/

/-- **A dump is read back as the descriptions exactly if no field has a tab or a newline in it.** It
    has a line for each plugin and one more for each newline in a field. Contexts without such fields
    have the same dump only if they are described alike. -/
theorem dump_read_iff_plain (ctx : Context) :
    (Dump.read ctx.dump = ctx.descriptions.map Description.fields ↔
      ∀ d ∈ ctx.descriptions, d.Plain) ∧
    (Dump.lines ctx.dump).length =
      ctx.plugins.size + (ctx.descriptions.map Description.newlines).sum ∧
    ∀ other : Context, (∀ d ∈ ctx.descriptions, d.Plain) → (∀ d ∈ other.descriptions, d.Plain) →
      (ctx.dump = other.dump ↔ ctx.descriptions = other.descriptions) := by
  have size : ctx.descriptions.length = ctx.plugins.size := List.length_map _
  refine ⟨Dump.read_text_iff _, ?_, fun other plain plain' => Dump.text_inj plain plain'⟩
  rw [← size]
  exact Dump.length_lines_text _

/-! ### A tab in a version -/

/-- A file `x.mod` with a codec of the given version. -/
def codecFile (version : String) : FileSystem :=
  .copies (Manifest.ofLines ["version=" ++ version, "symbol=register_codec"]) (.bytes [])

/-- The context of a host that calls codecs by a name and has scanned the file. -/
def codecContext (label version : String) : Context :=
  ((Context.fresh manifestSettings).runAll
    [.registerType label (PluginType.requiresSymbol Abi.codec),
     .scan (codecFile version) (Path.ofString "/a") .silent]).2

/-- Descriptions are read off the list that a context has registered. -/
theorem Shows.descriptions {s : Settings} {types : TypeRegistry} {rows : List Registration}
    {ctx : Context} (h : Shows s types rows ctx) :
    ctx.descriptions =
      rows.map fun r => ⟨r.name, r.version, types.describe r.mask, r.path.shown⟩ := by
  rw [← h.rows, ← h.types, List.map_map]
  rfl

/-- The file is described by its version and by the name of the type. -/
theorem descriptions_codecContext (label : String) {version : String}
    (entries : Manifest.entries ("\n".intercalate ["version=" ++ version, "symbol=register_codec"]) =
      [.version version, .symbol Abi.codec]) :
    (codecContext label version).descriptions = [⟨"x.mod", version, label, "/a/x.mod"⟩] := by
  have content : (codecFile version).read (Path.ofString "/a/x.mod") =
      .ok (Manifest.ofLines ["version=" ++ version, "symbol=register_codec"]) := by cbv
  have text : (codecFile version).readText (Path.ofString "/a/x.mod") =
      .ok ("\n".intercalate ["version=" ++ version, "symbol=register_codec"]) := by
    simp only [FileSystem.readText, content, Manifest.ofLines]
    simp only [bind, Except.bind, Utf8.decode?_eq_some_iff.mpr rfl, Option.elim_some]
  have candidates : manifestSettings.candidatesOf (codecFile version) [Path.ofString "/a"] =
      [(Path.ofString "/a/x.mod", "x.mod")] := by cbv
  have known : Shows manifestSettings ⟨[⟨label, 0, PluginType.requiresSymbol Abi.codec⟩]⟩ []
      ((Context.fresh manifestSettings).registerType label
        (PluginType.requiresSymbol Abi.codec)).2 := ⟨rfl, rfl, rfl⟩
  have row : Manifest.loader.registration? ⟨[⟨label, 0, PluginType.requiresSymbol Abi.codec⟩]⟩
      (codecFile version) (Path.ofString "/a/x.mod", "x.mod") =
        some ⟨"x.mod", version, ⟨1⟩, Path.ofString "/a/x.mod"⟩ := by
    simp only [Loader.registration?, Manifest.loader, Manifest.load, text, Manifest.ofText, entries]
    cbv
  have scanned : Shows manifestSettings ⟨[⟨label, 0, PluginType.requiresSymbol Abi.codec⟩]⟩
      [⟨"x.mod", version, ⟨1⟩, Path.ofString "/a/x.mod"⟩] (codecContext label version) := by
    have enrolled := scanAll_enrolls (codecFile version) .silent [Path.ofString "/a"] known
    rw [candidates, List.foldl_cons, enroll, show manifestSettings.loader = Manifest.loader from rfl,
      row] at enrolled
    exact enrolled
  have shown : (Path.ofString "/a/x.mod").shown = "/a/x.mod" := Utf8.lossy_encode _
  have named : TypeRegistry.describe ⟨[⟨label, 0, PluginType.requiresSymbol Abi.codec⟩]⟩ ⟨1⟩ =
      label := by
    have names : TypeRegistry.names ⟨[⟨label, 0, PluginType.requiresSymbol Abi.codec⟩]⟩ ⟨1⟩ =
        [label] := by cbv
    rw [TypeRegistry.describe, names, String.intercalate_singleton]
  rw [scanned.descriptions, List.map_singleton, shown, named]

/-- A file without separators is read back, and told from another version of it. A tab in a version
    passes for a tab between fields: the dump has a field too many, and it is the dump of another host
    with another file. -/
theorem dump_read_codecContext :
    Dump.read (codecContext "codec" "1").dump = [["x.mod", "1", "codec", "/a/x.mod"]] ∧
    (codecContext "codec" "1").dump ≠ (codecContext "codec" "2").dump ∧
    Dump.read (codecContext "codec" "1\tcodec").dump ≠
      (codecContext "codec" "1\tcodec").descriptions.map Description.fields ∧
    (codecContext "codec" "1\tcodec").dump = (codecContext "codec\tcodec" "1").dump ∧
    (codecContext "codec" "1\tcodec").descriptions ≠
      (codecContext "codec\tcodec" "1").descriptions := by
  have first : (codecContext "codec" "1").descriptions = [⟨"x.mod", "1", "codec", "/a/x.mod"⟩] :=
    descriptions_codecContext "codec" (by decide)
  have second : (codecContext "codec" "2").descriptions = [⟨"x.mod", "2", "codec", "/a/x.mod"⟩] :=
    descriptions_codecContext "codec" (by decide)
  have tabbed : (codecContext "codec" "1\tcodec").descriptions =
      [⟨"x.mod", "1\tcodec", "codec", "/a/x.mod"⟩] := descriptions_codecContext "codec" (by decide)
  have shifted : (codecContext "codec\tcodec" "1").descriptions =
      [⟨"x.mod", "1", "codec\tcodec", "/a/x.mod"⟩] :=
    descriptions_codecContext "codec\tcodec" (by decide)
  have plain : ∀ d ∈ (codecContext "codec" "1").descriptions, d.Plain := by
    rw [first]
    decide
  have plain' : ∀ d ∈ (codecContext "codec" "2").descriptions, d.Plain := by
    rw [second]
    decide
  obtain ⟨reads, -, tells⟩ := dump_read_iff_plain (codecContext "codec" "1")
  refine ⟨?_, fun same => ?_, fun same => ?_, ?_, ?_⟩
  · rw [reads.mpr plain, first]
    rfl
  · have alike := (tells _ plain plain').mp same
    rw [first, second] at alike
    exact absurd alike (by decide)
  · have untabbed := (dump_read_iff_plain (codecContext "codec" "1\tcodec")).1.mp same
    rw [tabbed] at untabbed
    revert untabbed
    decide
  · rw [Context.dump, tabbed, Context.dump, shifted]
    rfl
  · rw [tabbed, shifted]
    decide

end PluginDiscovery

import TerminalReel.Proofs.Config.RoundTrip
import TerminalReel.Proofs.Output.Files
/-!
# TerminalReel.Proofs.Output.Reference

**Where the link of a page leads.**

The page refers to its drawing by the file's name as it is. A name is no reference: the
link leads to the drawing beside the page exactly if the name, read as a reference, stands
for itself.
-/

namespace TerminalReel

namespace Output

variable {host : Host} {config : Config} {directory : Path} {disk after : Disk} {json : Json}
  {written : List Path}

theorem slash_not_mem_name {name : String} (accepted : (Config.ofJson json).outcome = .ok config)
    (named : config.name = Text.ofString name) : '/' ∉ name.toList := by
  have stem := (Config.isReadable_of_ofJson accepted).stem
  rw [named] at stem
  intro slash
  have among : CodePoint.char '/' ∈ (Text.ofString name).points := List.mem_map_of_mem slash
  rw [isFileStem, List.contains_iff_mem.2 among] at stem
  simp at stem

/-- The link of a written page names the drawing that is written beside it exactly if the
name of the files is literal: it has no scheme, no character that ends a path and no
escape. -/
theorem write_names_iff (accepted : (Config.ofJson json).outcome = .ok config)
    (h : ((write host config directory).perform disk).value = (.ok written, after))
    (asked : .html ∈ config.outputs) (linking : config.embed = false) :
    ∃ (document : Document) (name : String) (link : Text),
      (Document.build config config.name).outcome = .ok document ∧
      config.name = Text.ofString name ∧
      after.Holds (directory.child (name ++ ".html" : String)) document.html ∧
      after.Holds (directory.child (name ++ ".svg" : String)) document.svg ∧
      Document.sources document.html = [link] ∧
      (Reference.Names link (name ++ ".svg") ↔ Reference.isLiteral name.toList = true) := by
  obtain ⟨document, built, done⟩ := wrote_of_write h
  have page := done.page (done.mem_written asked linking .html)
  have drawing := done.drawing (done.mem_written asked linking .svg)
  obtain ⟨bytes, encoded, -⟩ := id page
  obtain ⟨name, named⟩ := Document.exists_string_of_html built linking encoded
  have files : ∀ kind : OutputKind,
      fileName config kind = Text.ofString (name ++ ("." ++ kind.name)) := by
    intro kind
    rw [fileName, named, Text.ofString_append, Text.ofString_append]
    ext1
    simp
  rw [filePath_eq, files] at page drawing
  refine ⟨document, name, config.name ++ ".svg", built, named, page, drawing,
    Document.sources_html built linking, ?_⟩
  rw [named]
  exact Reference.names_iff (slash_not_mem_name accepted named)

/-- One step without anything in it, and a name for the files. -/
def named (name : String) : Json :=
  .object [("name", .string name), ("steps", .array [.object []])]

/-- The configuration links, and a run on an empty disk returns. -/
def writesLink (config : Config) : Bool :=
  config.outputs.contains .html && !config.embed &&
    ((write .standard config { names := ["out"] }).perform {}).value.1.isOk

theorem exists_run (linked : writesLink config = true) :
    .html ∈ config.outputs ∧ config.embed = false ∧ ∃ written after,
      ((write .standard config { names := ["out"] }).perform {}).value = (.ok written, after) := by
  rw [writesLink, Bool.and_eq_true, Bool.and_eq_true, Bool.not_eq_true', List.contains_iff_mem]
    at linked
  obtain ⟨⟨asked, linking⟩, returns⟩ := linked
  obtain ⟨written, returned⟩ := exists_of_isOk returns
  exact ⟨asked, linking, written, _, Prod.ext returned rfl⟩

theorem write_names_percent : ∃ config written after,
    (Config.ofJson (named "90%: a&b")).outcome = .ok config ∧
      ((write .standard config { names := ["out"] }).perform {}).value = (.ok written, after) ∧
      ∃ document link, (Document.build config config.name).outcome = .ok document ∧
        Document.sources document.html = [link] ∧ Reference.Names link "90%: a&b.svg" := by
  have checked : (Config.ofJson (named "90%: a&b")).outcome.toOption.any (fun config =>
      writesLink config && decide (config.name = "90%: a&b")) = true := by
    decide +kernel
  obtain ⟨config, accepted, linked⟩ := exists_of_any checked
  obtain ⟨linked, own⟩ := Bool.and_eq_true_iff.1 linked
  obtain ⟨asked, linking, written, after, returned⟩ := exists_run linked
  obtain ⟨document, name, link, built, same, -, -, source, names⟩ :=
    write_names_iff accepted returned asked linking
  obtain rfl := Text.ofString_inj.1 (same.symm.trans (of_decide_eq_true own))
  exact ⟨config, written, after, accepted, returned, document, link, built, source,
    names.2 (by decide)⟩

/-- The reference ends at the number sign. -/
theorem not_names_numberSign : ∃ config written after,
    (Config.ofJson (named "a#b")).outcome = .ok config ∧
      ((write .standard config { names := ["out"] }).perform {}).value = (.ok written, after) ∧
      ∃ document link, (Document.build config config.name).outcome = .ok document ∧
        after.Holds { names := ["out", "a#b.html"] } document.html ∧
        after.Holds { names := ["out", "a#b.svg"] } document.svg ∧
        Document.sources document.html = [link] ∧ ¬Reference.Names link "a#b.svg" := by
  have checked : (Config.ofJson (named "a#b")).outcome.toOption.any (fun config =>
      writesLink config && decide (config.name = "a#b")) = true := by
    decide +kernel
  obtain ⟨config, accepted, linked⟩ := exists_of_any checked
  obtain ⟨linked, own⟩ := Bool.and_eq_true_iff.1 linked
  obtain ⟨asked, linking, written, after, returned⟩ := exists_run linked
  obtain ⟨document, built, done⟩ := wrote_of_write returned
  have own := of_decide_eq_true own
  have page := done.page (done.mem_written asked linking .html)
  have drawing := done.drawing (done.mem_written asked linking .svg)
  have source := Document.sources_html built linking
  rw [filePath_eq, fileName, own] at page drawing
  rw [own] at source
  exact ⟨config, written, after, accepted, returned, document, _, built, page, drawing, source,
    by decide⟩

end Output

end TerminalReel

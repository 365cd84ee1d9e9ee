import EndpointDocs.Proofs.Site.Course

/-!
What documenting one block does. The record joins the contents in any case. With a page, the page is
the one file that changed and nothing is reported; without one, one error is reported and no file
changed, unless a template has made a page that cannot be encoded. A block without a title line has
neither title nor page name, and gets no page.
-/
namespace EndpointDocs

/-- No file can be written where a directory stands. -/
theorem Tree.exists_write_error {tree : Tree} {path : Path} {place : Place}
    (isTarget : tree.target path = .ok place) (there : tree.isDirectoryAt place = true)
    (bytes : List UInt8) : ∃ error, tree.write path bytes = .error error := by
  unfold Tree.write
  split
  · exact ⟨_, rfl⟩
  · rw [isTarget]
    exact ⟨_, if_pos there⟩

namespace Page

theorem getLast?_finish (body : Wide) : (finish body).getLast? = some (.char '\n') := by
  unfold finish
  split
  · rename_i ended
    exact ended
  · have feed : Wide.ofString "\n" = [.char '\n'] := by decide
    simp [feed]

/-- In whatever layout, a page that comes out ends with a line feed. -/
theorem getLast?_referenceIn {layout : Layout ReferenceData} {record : Record}
    {stylesheet : CodeBlock.Stylesheet} {now : Moment} {text : String}
    (isPage : referenceIn layout record stylesheet now = .ok (Wide.ofString text)) :
    text.toList.getLast? = some '\n' := by
  have ends : (Wide.ofString text).getLast? = some (.char '\n') := by
    unfold referenceIn Layout.render at isPage
    split at isPage
    · rw [← Except.ok.inj isPage]
      exact getLast?_finish _
    · rename_i template
      cases made : template (.ofRecord record stylesheet now) with
      | error error =>
        rw [made] at isPage
        cases isPage
      | ok body =>
        rw [made] at isPage
        rw [← Except.ok.inj isPage]
        exact getLast?_finish _
  rw [Wide.ofString, List.getLast?_map] at ends
  obtain ⟨last, isLast, isFeed⟩ := Option.map_eq_some_iff.1 ends
  cases isFeed
  exact isLast

/-- A page is refused with its directory, or unless it is a text that can be written. -/
theorem writeInto_refused_iff (tree : Tree) (directory path : Path)
    (page : Except TemplateError Wide) :
    (∃ error, (writeInto tree directory path page).1 = .error error) ↔
      (tree.createDirectories directory).1 ≠ none ∨
        ∀ text : String, page = .ok (Wide.ofString text) →
          ∃ error, (tree.createDirectories directory).2.write path
            (Text.Utf8.encode text.toList) = .error error := by
  unfold writeInto
  cases made : tree.createDirectories directory with
  | mk refusal prepared =>
    cases refusal with
    | some error => simp
    | none =>
      cases page with
      | error error => simp
      | ok page =>
        cases encoded : Text.Utf8.encodeWide page with
        | error fault =>
          have noText (text : String) : page ≠ Wide.ofString text := by
            rintro rfl
            rw [Text.Utf8.encodeWide_ofString] at encoded
            cases encoded
          cases emptied : prepared.write path [] <;> simp [encoded, noText, emptied]
        | ok bytes =>
          obtain ⟨text, rfl, rfl⟩ := Text.Utf8.exists_of_encodeWide encoded
          have only (other : String) : Wide.ofString text = Wide.ofString other ↔ other = text :=
            Wide.ofString_inj.trans eq_comm
          cases wrote : prepared.write path (Text.Utf8.encode text.toList) <;>
            simp [encoded, only, wrote]

/-- A page is refused for want of a name, or as any page is. -/
theorem writeReference_refused_iff (tree : Tree) (layout : Layout ReferenceData)
    (directory : Path) (stylesheet : CodeBlock.Stylesheet) (now : Moment) (record : Record) :
    (∃ error, (writeReference tree layout directory stylesheet now record).1 = .error error) ↔
      record.filename = "" ∨
        ∃ error, (writeInto tree directory (referencePath directory record)
          (referenceIn layout record stylesheet now)).1 = .error error := by
  unfold writeReference
  by_cases nameless : record.filename = ""
  · simp [nameless]
  · cases writeInto tree directory (referencePath directory record)
        (referenceIn layout record stylesheet now) with
    | mk outcome new => cases outcome <;> simp [nameless]

end Page

namespace Site

/-- A record without a page name gets no page, and no file changes. -/
theorem addRecord_nameless (site : Site) (work : Work) {record : Record}
    (nameless : record.filename = "") :
    (site.addRecord work record).1 = none ∧
      Tree.Frame (fun _ => False) work.tree (site.addRecord work record).2.tree := by
  rcases addRecord_left (Prod.eta (site.addRecord work record)).symm with
    ⟨noPage, unchanged⟩ | ⟨_, named, _⟩
  · exact ⟨noPage, unchanged _⟩
  · exact absurd nameless named

theorem addRecord_page (site : Site) (work : Work) {record : Record} {path : Path}
    (isPage : (site.addRecord work record).1 = some path) : path = site.pagePath record := by
  rcases addRecord_left (Prod.eta (site.addRecord work record)).symm with
    ⟨noPage, _⟩ | ⟨isPath, _⟩
  · cases noPage.symm.trans isPage
  · exact isPath path isPage

/-- A block is documented whatever its lines are and whatever stands in the tree. Its record is the
one of its lines and is entered behind the earlier ones; the glossary stays. A page that comes back
is at the path of the record's page name, holds the page of the record, which ends with a line feed,
and is the one file that may have changed; nothing is reported then. If no page comes back, one
error is reported and no file has changed, unless a template made a page that cannot be encoded:
then the file of the page may be there, without a byte. No page comes back exactly if the record has
no page name, the output directory cannot be had, or the page is no text that can be written to its
file. -/
theorem processBlock_effect (site : Site) (marker : site.config.sentinels.marker ≠ [])
    (work : Work) (lines : List String) (source : Option Path) :
    ∃ record page after, site.processBlock work lines source = (.ok (record, page), after) ∧
      Record.ofLinesChecked work.glossary site.registry site.config.sentinels.marker lines source =
        .ok record ∧
      after.contents = work.contents ++ [record] ∧
      after.glossary = work.glossary ∧
      (∀ path, page = some path →
        path = site.config.outputDirectory.join (Path.ofText record.filename) ∧
        (∃ text : String, site.page record = .ok (Wide.ofString text) ∧
          after.tree.read path = .ok (Text.Utf8.encode text.toList) ∧
          text.toList.getLast? = some '\n') ∧
        (∃ place, after.tree.locate path = .ok place ∧
          Tree.Frame (· = place) work.tree after.tree) ∧
        after.log = work.log) ∧
      (page = none →
        (∃ entry, entry.level = .error ∧ after.log = work.log ++ [entry]) ∧
        (Tree.Frame (fun _ => False) work.tree after.tree ∨
          Page.Unencodable (site.page record) ∧
          after.tree.read (site.config.outputDirectory.join (Path.ofText record.filename)) =
            .ok [] ∧
          ∃ place, after.tree.locate
              (site.config.outputDirectory.join (Path.ofText record.filename)) = .ok place ∧
            Tree.Frame (· = place) work.tree after.tree)) ∧
      (page = none ↔
        record.filename = "" ∨
        (work.tree.createDirectories site.config.outputDirectory).1 ≠ none ∨
        ∀ text : String, site.page record = .ok (Wide.ofString text) →
          ∃ error, (work.tree.createDirectories site.config.outputDirectory).2.write
            (site.config.outputDirectory.join (Path.ofText record.filename))
            (Text.Utf8.encode text.toList) = .error error) ∧
      (site.pageLayout = .standard → ¬ Page.Unencodable (site.page record)) := by
  let record := Record.ofLines work.glossary site.registry site.config.sentinels.marker lines source
  have refusedIff := Page.writeReference_refused_iff work.tree site.pageLayout
    site.config.outputDirectory site.stylesheet site.now record
  rw [Page.writeInto_refused_iff, ← writePage] at refusedIff
  refine ⟨record, _, _, processBlock_of_marker marker work lines source,
    Record.ofLinesChecked_of_marker _ _ marker lines source, ?_⟩
  have standardPage := fun standard => site.not_unencodable_page standard record
  rcases site.addRecord_cases work record with
    ⟨tree, wrote, added⟩ | ⟨error, tree, entry, refused, isError, added⟩
  · rw [added]
    rw [wrote] at refusedIff
    obtain ⟨_, _, ⟨text, isPage, read⟩, wrote⟩ := Page.writeReference_ok wrote
    refine ⟨rfl, rfl, ?_, by simp, ?_, standardPage⟩
    · rintro _ ⟨rfl⟩
      exact ⟨rfl, ⟨text, isPage, read, Page.getLast?_referenceIn isPage⟩, wrote.file, rfl⟩
    · exact (iff_of_false (by simp) (by simp)).trans refusedIff
  · rw [added]
    rw [refused] at refusedIff
    refine ⟨rfl, rfl, by simp, ?_, ?_, standardPage⟩
    · refine fun _ => ⟨⟨entry, isError, rfl⟩, ?_⟩
      refine (Page.writeReference_error refused).imp (fun unchanged => unchanged _) ?_
      rintro ⟨_, unencodable, emptied, wrote⟩
      exact ⟨unencodable, emptied, wrote.file⟩
    · exact (iff_of_true rfl ⟨error, rfl⟩).trans refusedIff

/-- A directory stands where the page of one title would go. -/
def occupiedWork : Work :=
  ⟨Glossary.empty, [], ⟨[], [(["doc"], .directory), (["doc", "ape.html"], .directory)]⟩, []⟩

def titledRecord (title slug : String) : Record :=
  { title, slug, filename := slug ++ Directive.pageSuffix }

theorem processBlock_effect_occupied :
    (plainSite {}).config.sentinels.marker ≠ [] ∧
    (∃ record after, (plainSite {}).processBlock occupiedWork ["# @title Zoo"] none =
        (.ok (record, some ⟨.here, ["doc", "zoo.html"]⟩), after) ∧
      after.contents = [record] ∧
      after.tree.read ⟨.here, ["doc", "zoo.html"]⟩ =
        .ok (Text.Utf8.encode ((plainSite {}).pageText record).toList) ∧
      after.log = []) ∧
    ∃ record after, (plainSite {}).processBlock occupiedWork ["# @title Ape"] none =
        (.ok (record, none), after) ∧
      after.contents = [record] ∧
      Tree.Frame (fun _ => False) occupiedWork.tree after.tree ∧
      ∃ entry, entry.level = .error ∧ after.log = [entry] := by
  refine ⟨by decide, ?_, ?_⟩
  · obtain ⟨record, page, after, done, _, entered, _, written, _⟩ :=
      processBlock_effect (plainSite {}) (by decide) occupiedWork ["# @title Zoo"] none
    have ran := processBlock_standard (plainSite {}) occupiedWork ["# @title Zoo"] none
      (titledRecord "Zoo" "zoo") rfl (by decide) (by decide) (by decide) (by decide)
    cases done.symm.trans ran
    obtain ⟨isPath, ⟨text, isPage, read, _⟩, _, quiet⟩ := written _ rfl
    rw [page_standard rfl] at isPage
    cases Wide.ofString_inj.1 (Except.ok.inj isPage)
    exact ⟨_, _, done, entered, read, quiet⟩
  · obtain ⟨record, page, after, done, isRecord, entered, _, _, refused, refusedIff, plain⟩ :=
      processBlock_effect (plainSite {}) (by decide) occupiedWork ["# @title Ape"] none
    have ape : Record.ofLinesChecked occupiedWork.glossary (plainSite {}).registry
        (plainSite {}).config.sentinels.marker ["# @title Ape"] none =
          .ok (titledRecord "Ape" "ape") := by decide
    cases isRecord.symm.trans ape
    have isTarget : (occupiedWork.tree.createDirectories ⟨.here, ["doc"]⟩).2.target
        ⟨.here, ["doc", "ape.html"]⟩ = .ok ["doc", "ape.html"] := by decide
    have inTheWay := Tree.exists_write_error isTarget (by decide)
    obtain rfl := refusedIff.2 (.inr (.inr fun text _ => inTheWay _))
    obtain ⟨reported, unchanged⟩ := refused rfl
    exact ⟨_, after, done, entered, unchanged.resolve_right fun lost => plain rfl lost.1, reported⟩

/-- The identifier of a record is that of its title, and a record with a title has the page name of
its identifier. A record without one has no page name and gets no page, and no file changes, unless
the last title line of its block is without text: then it has the page name of an empty identifier,
and its page goes there. -/
theorem processBlock_by_titles (site : Site) (marker : site.config.sentinels.marker ≠ [])
    (work : Work) (lines : List String) (source : Option Path) :
    ∃ record page after, site.processBlock work lines source = (.ok (record, page), after) ∧
      Record.ofLinesChecked work.glossary site.registry site.config.sentinels.marker lines source =
        .ok record ∧
      record.slug = Directive.slugOf record.title ∧
      (record.title ≠ "" → record.filename = record.slug ++ ".html") ∧
      ((Directive.textsOf site.config.sentinels.marker lines .title).getLast? ≠ some "" →
        record.title = "" →
          record.filename = "" ∧ page = none ∧
            Tree.Frame (fun _ => False) work.tree after.tree) ∧
      ((Directive.textsOf site.config.sentinels.marker lines .title).getLast? = some "" →
        record.title = "" ∧ record.filename = ".html" ∧
          ∀ path, page = some path →
            path = site.config.outputDirectory.join ⟨.here, [".html"]⟩) := by
  let record := Record.ofLines work.glossary site.registry site.config.sentinels.marker lines source
  obtain ⟨title, slug, filename⟩ := Record.names_ofLines work.glossary site.registry
    site.config.sentinels.marker lines source
  refine ⟨record, _, _, processBlock_of_marker marker work lines source,
    Record.ofLinesChecked_of_marker _ _ marker lines source, slug, ?_⟩
  -- Only the last title line counts, and whether it has a text.
  cases last : (Directive.textsOf site.config.sentinels.marker lines .title).getLast? with
  | none =>
    rw [last] at title filename
    exact ⟨fun titled => absurd title titled,
      fun _ _ => ⟨filename, site.addRecord_nameless work filename⟩, by simp⟩
  | some text =>
    rw [last] at title filename
    refine ⟨fun _ => by rw [slug]; exact filename, ?_, ?_⟩
    · intro withText untitled
      exact absurd (congrArg some (title.symm.trans untitled)) withText
    · rintro ⟨rfl⟩
      have untitled : record.title = "" := title
      have named : record.filename = ".html" := filename.trans (by rw [title]; rfl)
      refine ⟨untitled, named, ?_⟩
      intro path isPage
      rw [site.addRecord_page work isPage, pagePath, Page.referencePath, named]
      rfl

theorem processBlock_by_titles_blank :
    (plainSite {}).config.sentinels.marker ≠ [] ∧
    ∃ record after, (plainSite {}).processBlock emptyWork ["# @titles Zoo", "# @synopsis"] none =
        (.ok (record, none), after) ∧
      record.title = "" ∧ record.filename = "" ∧
      Tree.Frame (fun _ => False) emptyWork.tree after.tree := by
  obtain ⟨record, page, after, done, isRecord, _, _, untitled, _⟩ := processBlock_by_titles
    (plainSite {}) (by decide) emptyWork ["# @titles Zoo", "# @synopsis"] none
  have blank : Record.ofLinesChecked emptyWork.glossary (plainSite {}).registry
      (plainSite {}).config.sentinels.marker ["# @titles Zoo", "# @synopsis"] none = .ok {} := by
    decide
  cases isRecord.symm.trans blank
  obtain ⟨nameless, rfl, frame⟩ := untitled (by decide) rfl
  exact ⟨by decide, _, after, done, rfl, nameless, frame⟩

/-- A title line without text takes the title back and leaves a page name, so the page of a record
without a title is written. -/
theorem processBlock_writes_untitled_page :
    ∃ record after, (plainSite {}).processBlock emptyWork ["# @title Zoo", "# @title"] none =
        (.ok (record, some ⟨.here, ["doc", ".html"]⟩), after) ∧
      record.title = "" ∧ record.filename ≠ "" ∧
      emptyWork.tree.filesBelow [] = [] ∧
      after.tree.filesBelow [] = [[Wide.ofString "doc", ".html"]] := by
  have ran := processBlock_standard (plainSite {}) emptyWork ["# @title Zoo", "# @title"] none
    (titledRecord "" "") rfl (by decide) (by decide) (by decide) (by decide)
  exact ⟨_, _, ran, rfl, by decide, by decide, by decide⟩

end Site

end EndpointDocs

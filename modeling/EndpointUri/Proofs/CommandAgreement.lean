import EndpointUri.Command.Run
import EndpointUri.Proofs.CompletionMeaning
import EndpointUri.Proofs.PrintedJson

/-!
The command line and the service of an editor complete alike. Both read the catalog at the path of
the settings and drop the same candidates. They part only over an error: the command reports it, and
the editor is given an empty list.
-/
namespace EndpointUri

/-! ### Candidates in an editor -/

/-- How an editor is given a candidate: with its texts and its mark, and with an edit whose range,
read in the document, is the candidate's range moved to where the URI stands. -/
structure CompletionItem.Shows (document : String) (uriOffset : Nat) (candidate : Candidate)
    (item : CompletionItem) : Prop where
  label : item.label = candidate.label
  documentation : item.documentation = candidate.documentation
  deprecated : item.deprecated = candidate.deprecated
  replaces : item.edit.range.span? document =
    some ⟨candidate.replaceRange.start + uriOffset, candidate.replaceRange.stop + uriOffset⟩
  newText : item.edit.newText = candidate.label

section Document

variable {pre uri : String}
  (addressable : pre.utf8ByteSize + uri.utf8ByteSize < Text.offsetLimit) (post : String)
include addressable

theorem CompletionItem.exists_shows {candidate : Candidate}
    (range : candidate.replaceRange = (SchemePath.ofText uri).scheme.span) :
    ∃ item, ofCandidate? (pre ++ uri ++ post) pre.utf8ByteSize candidate = some item ∧
      Shows (pre ++ uri ++ post) pre.utf8ByteSize candidate item := by
  obtain ⟨back, split, whole, covered⟩ := document_split pre uri post
  have size := congrArg Text.byteLength split
  rw [Text.byteLength_toList, Text.byteLength_append, Text.byteLength_toList] at size
  have span : candidate.replaceRange =
      ⟨0, (SchemePath.ofText uri).scheme.text.utf8ByteSize⟩ := by
    rw [range, (SchemePath.scheme_front uri).2, Text.byteLength_toList]
  have moved : candidate.replaceRange.shift? pre.utf8ByteSize =
      some (SchemePath.schemeIn pre uri) := by
    rw [span, Span.shift?_front (by omega), SchemePath.schemeIn]
  refine ⟨_, by rw [ofCandidate?, moved]; rfl, rfl, rfl, rfl, ?_, rfl⟩
  rw [covered, Range.ofSpan_piece whole, Range.span?_piece whole, ← covered, span,
    SchemePath.schemeIn, Nat.zero_add, Nat.add_comm]

theorem CompletionItem.exists_items_show {candidates : List Candidate}
    (ranges : ∀ candidate ∈ candidates,
      candidate.replaceRange = (SchemePath.ofText uri).scheme.span) (includeDeprecated : Bool) :
    ∃ items, ofCandidates? (pre ++ uri ++ post) pre.utf8ByteSize includeDeprecated candidates =
        some items ∧
      List.Forall₂ (Shows (pre ++ uri ++ post) pre.utf8ByteSize)
        (candidates.filter (Candidate.offered includeDeprecated)) items := by
  apply exists_forall₂_mapM
  intro candidate member
  exact exists_shows addressable post (ranges candidate (List.mem_of_mem_filter member))

end Document

theorem SchemePath.scheme_isWords {uri : String} (addressable : uri.utf8ByteSize < Text.offsetLimit) :
    (SchemePath.ofText uri).scheme.span.IsWords := by
  obtain ⟨start, stop⟩ := SchemePath.scheme_span_ofText uri
  have last : Json.maxWord + 1 = Text.offsetLimit := rfl
  rw [Text.byteLength_toList] at stop
  exact ⟨by omega, by omega⟩

/-! ### A catalog in a file -/

theorem Handle.get_ofSource (source : Nat → Load) :
    (ofSource source).get.value.2 = (source 0).value := by
  cases outcome : (source 0).value <;>
    simp [get, ofSource, request, beginLoad, settle, outcome]

/-- A file whose schemas all decode is the catalog of its models, with each scheme listed once. -/
theorem SchemaIndex.loadCatalog_file (path text : String)
    (decodes : (empty.addDocument path text).value.2 = .ok ()) :
    (loadCatalog path (.ok (.file text.toUTF8))).value =
      .ok ⟨((modelsOf text).map (·.scheme)).eraseDups, (Catalog.ofModels (modelsOf text)).model⟩ := by
  have represents := represents_empty.addDocument path text
  have catalog : (empty.addDocument path text).value.1.toCatalog =
      ⟨((modelsOf text).map (·.scheme)).eraseDups, (Catalog.ofModels (modelsOf text)).model⟩ :=
    congrArg₂ Catalog.mk represents.names (funext represents.model_eq)
  rw [← catalog]
  simp only [loadCatalog, load, readFrom, FileNode.read_toUTF8, ofDocument, Logged.value_bind,
    decodes]
  rfl

/-! ### The service -/

namespace Service

/-- Without a path there is never a candidate, in range or out of it. -/
theorem complete_unset {settings : Settings} (unset : settings.catalogPath = none)
    (lookup : Lookup Id) (region : SchemePath) (offset : Nat) :
    ((complete (ofSettings lookup settings).handle region offset).value.2.toOption.getD []) = [] := by
  have failing : (ofSettings lookup settings).handle.get.value.2 =
      .error (.unavailable "no catalogPath configured") := by
    rw [ofSettings, sourceOf, unset]
    rfl
  rw [complete_value]
  by_cases inside : region.span.touches offset
  · rw [if_pos inside, failing]
    rfl
  · rw [if_neg inside]
    rfl

theorem answer_ok {settings : Settings} {call : Call} {candidates : List Candidate}
    {items : List CompletionItem}
    (made : CompletionItem.ofCandidates? call.occurrence.documentText call.occurrence.uriOffset
      settings.includeDeprecated candidates = some items) :
    answer settings call (.ok candidates) = .items items := by
  simp only [answer, Except.toOption, Option.getD_some, made]

/-- Nothing found and an error look alike. -/
theorem answer_nothing {result : Except CatalogError (List Candidate)}
    (nothing : result.toOption.getD [] = []) (settings : Settings) (call : Call) :
    answer settings call result = .items [] := by
  rw [answer, nothing]
  rfl

end Service

/-! ### The command -/

theorem Uri.schemePath_parseLogged (uri : String) :
    (parseLogged uri).value.schemePath = SchemePath.ofText uri :=
  parse_schemePath uri

namespace Command

variable {settings : Settings} {path : String} {uri : String} {offset : Nat}

/-- Out of range the answer is there before any path is looked up, in whatever way that is done. -/
theorem perform_outside (set : settings.catalogPath = some path)
    (outside : (SchemePath.ofText uri).span.touches offset = false)
    {m : Type → Type} [Monad m] (lookup : Lookup m) :
    perform lookup settings (.complete uri offset none) =
      pure ⟨.ok "[]\n", (Uri.parseLogged uri).records⟩ := by
  have chosen : catalogPath? settings none = some path := set
  have nothing : ofCompleted settings (Uri.parseLogged uri)
      (pure ((none : Option Handle), .ok [])) = ⟨.ok "[]\n", (Uri.parseLogged uri).records⟩ := by
    apply Logged.ext
    · rfl
    · simp [ofCompleted]
  simp only [perform, chosen, Uri.schemePath_parseLogged]
  rw [completeWith_outside _ _ _ outside, nothing]

theorem perform_unset (unset : settings.catalogPath = none) (lookup : Lookup Id) :
    (Id.run (perform lookup settings (.complete uri offset none))).value =
      .error noCatalogMessage := by
  have missing : catalogPath? settings none = none := unset
  rw [perform, missing]
  rfl

/-- With a path in the settings the command completes on the handle of the service. -/
theorem perform_complete (set : settings.catalogPath = some path) (lookup : Lookup Id) :
    (Id.run (perform lookup settings (.complete uri offset none))).value =
      ofOffered ((EndpointUri.complete (Service.ofSettings lookup settings).handle
        (SchemePath.ofText uri) offset).value.2.map
          (·.filter (Candidate.offered settings.includeDeprecated))) := by
  have chosen : catalogPath? settings none = some path := set
  have handle : (Service.ofSettings lookup settings).handle =
      Handle.ofSource fun _ => SchemaIndex.loadCatalog path (lookup path) := by
    rw [Service.ofSettings, Service.sourceOf, set]
    rfl
  by_cases inside : (SchemePath.ofText uri).span.touches offset = true
  · simp only [perform, chosen, Uri.schemePath_parseLogged]
    rw [handle, EndpointUri.complete, completeWith_inside _ _ _ inside,
      completeWith_inside _ _ _ inside]
    rfl
  · have outside := Bool.eq_false_iff.mpr inside
    rw [perform_outside set outside, complete_outside outside]
    rfl

/-- What a run of a command may report under its settings: which records came before its own, and
which of them are shown, is left open. -/
def MayReport (lookup : Lookup Id) (settings : Settings) (command : Command) (report : Report) :
    Prop :=
  ∃ filter records, report =
    Command.report filter ⟨(Id.run (perform lookup settings command)).value, records⟩

theorem mayReport_runArguments {arguments : List String} {command : Command}
    (read : ofArguments? arguments = some command) (working : command ≠ .version)
    (lookup : Lookup Id) (here : Surroundings) :
    MayReport lookup (Id.run (Settings.loadFrom lookup here.environment here.workingDirectory
      none)).settings command (Id.run (runArguments lookup here arguments)) := by
  rw [runArguments, read]
  cases command with
  | version => exact absurd rfl working
  | parse uri => exact ⟨_, _, rfl⟩
  | complete uri offset catalog => exact ⟨_, _, rfl⟩

end Command

/-- What a completion found, as the command reports it and as an editor is answered. The command
succeeds if it has a path and no error was found. It then prints the candidates that the settings
leave; they can be read off its output, and they are shown in the same order. When it fails, nothing is
shown. -/
structure Command.Agrees (settings : Settings) (documentText : String) (uriOffset : Nat)
    (found : Except CatalogError (List Candidate)) (report : Report) (answer : Answer) : Prop where
  success : report.exitCode = 0 ↔
    settings.catalogPath ≠ none ∧ ∃ candidates, found = .ok candidates
  shown : report.exitCode = 0 → ∃ candidates printed items, found = .ok candidates ∧
    printed = candidates.filter (Candidate.offered settings.includeDeprecated) ∧
    report.output = (Json.array (printed.map Candidate.toJson)).pretty 0 ++ "\n" ∧
    Candidate.listOf? report.output = some printed ∧
    answer = .items items ∧
    List.Forall₂ (CompletionItem.Shows documentText uriOffset) printed items
  failed : report.exitCode ≠ 0 → report.exitCode = 1 ∧ report.output = "" ∧ answer = .items []

namespace Command

variable {settings : Settings} {documentText : String} {uriOffset : Nat} {filter : JournalFilter}
  {records : List Record}

theorem Agrees.of_error {found : Except CatalogError (List Candidate)} (message : String)
    (failing : ¬ (settings.catalogPath ≠ none ∧ ∃ candidates, found = .ok candidates)) :
    Agrees settings documentText uriOffset found (report filter ⟨.error message, records⟩)
      (.items []) where
  success := iff_of_false Nat.one_ne_zero failing
  shown := fun succeeded => absurd succeeded Nat.one_ne_zero
  failed := fun _ => ⟨rfl, rfl, rfl⟩

theorem Agrees.of_ok {candidates : List Candidate} {items : List CompletionItem}
    (set : settings.catalogPath ≠ none)
    (words : ∀ candidate ∈ candidates, candidate.replaceRange.IsWords)
    (shows : List.Forall₂ (CompletionItem.Shows documentText uriOffset)
      (candidates.filter (Candidate.offered settings.includeDeprecated)) items) :
    Agrees settings documentText uriOffset (.ok candidates)
      (report filter ⟨ofOffered (.ok (candidates.filter
        (Candidate.offered settings.includeDeprecated))), records⟩) (.items items) where
  success := iff_of_true rfl ⟨set, candidates, rfl⟩
  shown := fun _ => by
    refine ⟨candidates, _, items, rfl, rfl, rfl, Candidate.listOf?_pretty ?_, rfl, shows⟩
    intro candidate member
    exact words candidate (List.mem_of_mem_filter member)
  failed := fun failed => absurd rfl failed

end Command

/-- Under the same settings, and with no other call around, the command and the service agree on a
URI anywhere in a document that a line index can hold, and so does every run by arguments that loads
these settings. Out of range both give nothing, whatever the path names: the command does not look it
up, and the handle of the service stays as it was. -/
theorem command_and_editor_agree (lookup : Lookup Id) (settings : Settings)
    (document pre uri post : String) (offset : Nat)
    (small : (pre ++ uri ++ post).utf8ByteSize < UInt32.size) :
    let command := Command.complete uri offset none
    let service := Service.ofSettings lookup settings
    let found := (complete service.handle (SchemePath.ofText uri) offset).value.2
    let completed := (service.completion ⟨document, pre ++ uri ++ post, pre.utf8ByteSize, uri⟩
      (pre.utf8ByteSize + offset)).value
    (∀ report, command.MayReport lookup settings report →
      Command.Agrees settings (pre ++ uri ++ post) pre.utf8ByteSize found report completed.2) ∧
    (∀ arguments here, Command.ofArguments? arguments = some command →
      (Id.run (Settings.loadFrom lookup here.environment here.workingDirectory none)).settings =
        settings →
      command.MayReport lookup settings (Id.run (Command.runArguments lookup here arguments))) ∧
    (∀ path, settings.catalogPath = some path →
      (SchemePath.ofText uri).span.touches offset = false →
      (∀ (m : Type → Type) [Monad m] (lookup : Lookup m),
        Command.perform lookup settings command =
          pure ⟨.ok "[]\n", (Uri.parseLogged uri).records⟩) ∧
      (∀ report, command.MayReport lookup settings report →
        report.exitCode = 0 ∧ report.output = "[]\n") ∧
      completed.2 = .items [] ∧ completed.1.handle = service.handle) := by
  intro command service found completed
  subst found
  have addressable : pre.utf8ByteSize + uri.utf8ByteSize < Text.offsetLimit := by
    have words : UInt32.size ≤ Text.offsetLimit := by decide
    rw [String.utf8ByteSize_append, String.utf8ByteSize_append] at small
    omega
  have position : Service.positionOf ⟨document, pre ++ uri ++ post, pre.utf8ByteSize, uri⟩
      (pre.utf8ByteSize + offset) = offset := by
    simp [Service.positionOf]
  obtain ⟨handle, answer⟩ := service.completion_eq_complete
    ⟨document, pre ++ uri ++ post, pre.utf8ByteSize, uri⟩ (pre.utf8ByteSize + offset)
  rw [position] at handle answer
  refine ⟨?_, ?_, ?_⟩
  · rintro report ⟨filter, records, rfl⟩
    cases set : settings.catalogPath with
    | none =>
      -- Here the service is left with an error or, out of range, without a candidate.
      have nothing := Service.complete_unset set lookup (SchemePath.ofText uri) offset
      rw [Command.perform_unset set, answer.trans (Service.answer_nothing nothing _ _)]
      exact .of_error _ (fun both => both.1 set)
    | some path =>
      rw [Command.perform_complete set]
      cases result : (complete service.handle (SchemePath.ofText uri) offset).value.2 with
      | error fault =>
        rw [result] at answer
        rw [answer.trans (Service.answer_nothing rfl _ _)]
        exact .of_error _ (by simp)
      | ok candidates =>
        have ranges := fun candidate (member : candidate ∈ candidates) =>
          Checked.replaceRange_of_complete result member
        obtain ⟨items, made, shows⟩ := CompletionItem.exists_items_show addressable post ranges
          settings.includeDeprecated
        rw [result] at answer
        rw [answer.trans (Service.answer_ok made)]
        refine .of_ok (by simp [set]) ?_ shows
        intro candidate member
        rw [ranges candidate member]
        exact SchemePath.scheme_isWords (by omega)
  · rintro arguments here read rfl
    exact Command.mayReport_runArguments read (by simp [command]) lookup here
  · intro path set outside
    have empty (m : Type → Type) [Monad m] (lookup : Lookup m) :=
      Command.perform_outside set outside lookup
    rw [complete_outside outside] at handle answer
    refine ⟨empty, ?_, answer, handle⟩
    rintro report ⟨filter, records, rfl⟩
    rw [empty Id lookup]
    exact ⟨rfl, rfl⟩

/-- A catalog of two schemes, of which the deprecated one is not wanted, and a path that names
nothing, for a cursor in range and for one out of range. -/
theorem command_and_editor_agree_without_deprecated :
    let text := "[[[\"timer\", \"Ticks.\"]], [[\"tick\", null, true]]]"
    let lookup : Lookup Id := fun path =>
      if path = "c.json" then .ok (.file text.toUTF8) else .error .notFound
    let settings (path : String) : Settings := ⟨some path, false, .off⟩
    let reported (path : String) (offset : Nat) := Command.report ⟨[], none⟩
      ⟨(Id.run (Command.perform lookup (settings path) (.complete "ti:x" offset none))).value, []⟩
    let answered (path : String) (offset : Nat) :=
      ((Service.ofSettings lookup (settings path)).completion
        ⟨"a.xml", "é " ++ "ti:x" ++ "'", "é ".utf8ByteSize, "ti:x"⟩
        ("é ".utf8ByteSize + offset)).value.2
    ("é " ++ "ti:x" ++ "'").utf8ByteSize < UInt32.size ∧
      (reported "c.json" 2).exitCode = 0 ∧
      (reported "c.json" 2).output = "[\n  \x7b\n    \"label\": \"timer\",\n" ++
        "    \"documentation\": \"Ticks.\",\n    \"deprecated\": false,\n" ++
        "    \"replaceRange\": \x7b\n      \"start\": 0,\n      \"end\": 2\n    \x7d\n  \x7d\n]\n" ∧
      Candidate.listOf? (reported "c.json" 2).output =
        some [⟨"timer", some "Ticks.", false, ⟨0, 2⟩⟩] ∧
      (∃ item, answered "c.json" 2 = .items [item] ∧ item.label = "timer" ∧
        item.documentation = some "Ticks." ∧ item.deprecated = false ∧
        item.edit.range.span? ("é " ++ "ti:x" ++ "'") = some ⟨3, 5⟩) ∧
      (reported "none.json" 2).exitCode = 1 ∧ answered "none.json" 2 = .items [] ∧
      (reported "none.json" 5).output = "[]\n" ∧ answered "none.json" 5 = .items [] := by
  intro text lookup settings reported answered
  have small : ("é " ++ "ti:x" ++ "'").utf8ByteSize < UInt32.size := by decide
  have may (path : String) (offset : Nat) : (Command.complete "ti:x" offset none).MayReport lookup
      (settings path) (reported path offset) := ⟨_, _, rfl⟩
  have agree (path : String) (offset : Nat) := command_and_editor_agree lookup (settings path)
    "a.xml" "é " "ti:x" "'" offset small
  have found : (complete (Service.ofSettings lookup (settings "c.json")).handle
      (SchemePath.ofText "ti:x") 2).value.2 =
        .ok [⟨"timer", some "Ticks.", false, ⟨0, 2⟩⟩, ⟨"tick", none, true, ⟨0, 2⟩⟩] := by
    have models : SchemaIndex.modelsOf text =
        [⟨"timer", some "Ticks.", none⟩, ⟨"tick", none, some "true"⟩] := by decide +kernel
    have loaded := SchemaIndex.loadCatalog_file "c.json" text (by decide +kernel)
    rw [models] at loaded
    have served := (Handle.get_ofSource fun _ => SchemaIndex.loadCatalog "c.json"
      (.ok (.file text.toUTF8))).trans loaded
    have handle : (Service.ofSettings lookup (settings "c.json")).handle = Handle.ofSource fun _ =>
      SchemaIndex.loadCatalog "c.json" (.ok (.file text.toUTF8)) := rfl
    rw [complete_value, handle, served]
    decide
  have missing : (complete (Service.ofSettings lookup (settings "none.json")).handle
      (SchemePath.ofText "ti:x") 2).value.2 = .error (.file .notFound) := by
    rw [complete_value]
    rfl
  obtain ⟨success, shown, -⟩ := (agree "c.json" 2).1 _ (may "c.json" 2)
  have succeeded := success.mpr ⟨Option.some_ne_none _, _, found⟩
  obtain ⟨candidates, printed, items, same, kept, output, listed, answer, shows⟩ := shown succeeded
  obtain rfl := Except.ok.inj (found.symm.trans same)
  obtain rfl : printed = [⟨"timer", some "Ticks.", false, ⟨0, 2⟩⟩] := kept.trans (by decide)
  obtain ⟨item, shown, rfl⟩ : ∃ item, CompletionItem.Shows ("é " ++ "ti:x" ++ "'") "é ".utf8ByteSize
      ⟨"timer", some "Ticks.", false, ⟨0, 2⟩⟩ item ∧ items = [item] := by
    cases shows with
    | cons shown rest =>
      cases rest
      exact ⟨_, shown, rfl⟩
  obtain ⟨success', -, failed⟩ := (agree "none.json" 2).1 _ (may "none.json" 2)
  have unsuccessful : (reported "none.json" 2).exitCode ≠ 0 := by
    intro succeeded
    obtain ⟨-, candidates, same⟩ := success'.mp succeeded
    rw [missing] at same
    contradiction
  obtain ⟨one, -, nothing⟩ := failed unsuccessful
  obtain ⟨-, outside, empty, -⟩ := (agree "none.json" 5).2.2 "none.json" rfl (by decide)
  exact ⟨small, succeeded, output.trans (by decide +kernel), listed,
    ⟨item, answer, shown.label, shown.documentation, shown.deprecated, shown.replaces⟩,
    one, nothing, (outside _ (may "none.json" 5)).2, empty⟩

end EndpointUri

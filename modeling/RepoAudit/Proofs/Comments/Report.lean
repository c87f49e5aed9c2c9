import RepoAudit.Proofs.Comments.Resolve
import RepoAudit.Proofs.DeadCode.Order

/-! # Reports on files with comments

Comments in the place of white space change no declaration, no call and no finding, as long as none of
them stands where the first child of a node is read, whatever it is.

* `Program.ofSources_paired` – the programs of files without and with comments;
* `declarationsOf_eq`, `fileEdges_eq` – the declarations and the calls of one file;
* `deadCode_withComments` – the declarations, the call graph and the report of all files;
* `comment_hides_callee` – a comment in front of the name that is called hides the call.
-/

namespace RepoAudit

open Syntax

/-! ## Programs -/

theorem Program.ofSources_paired {sources sources' : List Source}
    (h : List.Forall₂ (Source.WithComments mayFollow) sources sources') :
    (Program.ofSources sources).Paired (Program.ofSources sources') := by
  intro path
  have last := optionRel_find? (p := (·.path = path)) (q := (·.path = path))
    (List.rel_reverse h) fun f f' file => by rw [file.path]
  have here := Program.module?_ofSources sources path
  have here' := Program.module?_ofSources sources' path
  rcases cases_of_optionRel last with ⟨e, e'⟩ | ⟨f, f', e, e', file⟩
  · rw [here, here', e, e']
    exact .none
  · have own : f.path = path := by simpa using List.find?_some e
    rw [e, Option.map_some, ← own] at here
    rw [e', Option.map_some, ← own] at here'
    rw [← own, here, here']
    refine .some ⟨?_, ?_, ?_, ?_⟩
    · simpa using file
    · simpa using Module.index_paired file
    · simpa using here
    · simpa using here'

/-! ## Properties of declarations -/

namespace Module

variable {f f' : Source} {m m' : Module} {c c' : Cursor}

theorem isTopLevel_eq (h : f.Paired f' c c') : isTopLevel c' = isTopLevel c := by
  unfold isTopLevel
  rcases cases_of_optionRel h.parent? with ⟨e, e'⟩ | ⟨parent, parent', e, e', outer⟩
  · rw [e, e']
  · have beyond : parent'.parent?.map (·.kind) = parent.parent?.map (·.kind) := by
      rcases cases_of_optionRel outer.parent? with ⟨o, o'⟩ | ⟨next, next', o, o', further⟩
      · rw [o, o']
      · rw [o, o', Option.map_some, Option.map_some, further.kind_eq]
    simp only [e, e', h.kind_eq, outer.kind_eq, beyond]

theorem declaresExported_eq (tables : m.Paired f f' m') (h : f.Paired f' c c') :
    m'.declaresExported c' = m.declaresExported c := by
  have names : m'.localNames c' = m.localNames c := by
    rw [localNames, localNames, h.kind_eq, tables.source, tables.source',
      Source.declaratorName?_eq h, Source.declaredNames_eq h]
  rw [declaresExported, declaresExported, isTopLevel_eq h, names, tables.exportedLocals_eq]

theorem exportedAlong_eq (tables : m.Paired f f' m') {way way' : List Cursor}
    (along : List.Forall₂ (f.Paired f') way way') (isStart : Bool) :
    m'.exportedAlong isStart way' = m.exportedAlong isStart way := by
  induction along generalizing isStart with
  | nil => rfl
  | @cons d d' above above' head rest ih =>
    unfold exportedAlong
    rw [head.kind_eq, declaresExported_eq tables head, ih]
    cases rest with
    | nil => rfl
    | cons parent _ =>
      dsimp only
      rw [parent.kind_eq]

theorem isExported_eq (tables : m.Paired f f' m') (h : f.Paired f' c c') :
    m'.isExported c' = m.isExported c :=
  exportedAlong_eq tables h.selfAndAncestors true

end Module

theorem Source.isCandidate_eq {f f' : Source} {c c' : Cursor} (h : f.Paired f' c c') :
    f'.isCandidate c' = f.isCandidate c := by
  have accessor : c'.children.any (fun k => !k.node.named && (k.kind == "get" || k.kind == "set")) =
      c.children.any (fun k => !k.node.named && (k.kind == "get" || k.kind == "set")) := by
    refine h.children.any_eq (fun a b paired => by rw [paired.node.named_eq, paired.kind_eq]) ?_
    rintro before d ⟨comment, -⟩
    simp [comment.named]
  have body : (c'.child? "body").isSome = (c.child? "body").isSome :=
    isSome_of_optionRel (h.child? "body")
  unfold isCandidate
  rw [h.kind_eq, accessor, body]
  rcases cases_of_optionRel (Source.Paired.named h "name" rfl) with
    ⟨n, n'⟩ | ⟨name, name', n, n', inner, same⟩
  · rw [n, n']
  · simp only [n, n', inner.kind_eq, same]

/-! ## One file -/

/-- Which nodes are paired depends on the bytes of the files only. -/
theorem Source.Paired.of_bytes {f f' g g' : Source} {c c' : Cursor} (h : f.Paired f' c c')
    (bytes : g.bytes = f.bytes) (bytes' : g'.bytes = f'.bytes) : g.Paired g' c c' := by
  unfold Source.Paired
  rw [bytes, bytes']
  exact h

/-- The modules that stand for the path of a file have its bytes. -/
structure StandFor (p p' : Program) (f f' : Source) (m m' : Module) : Prop where
  file : Source.WithComments mayFollow f f'
  modules : Counterpart p p' m m'
  here : p.module? f.path = some m
  here' : p'.module? f'.path = some m'
  bytes : m.source.bytes = f.bytes
  bytes' : m'.source.bytes = f'.bytes

section file

variable {p p' : Program} {f f' : Source} {m m' : Module} {c c' : Cursor}

theorem StandFor.paired (h : StandFor p p' f f' m m') (nodes : f.Paired f' c c') :
    m.source.Paired m'.source c c' :=
  nodes.of_bytes h.bytes h.bytes'

theorem declaration?_eq (markers : List String) (h : StandFor p p' f f' m m')
    (nodes : f.Paired f' c c') :
    declaration? m' markers f' c' = declaration? m markers f c := by
  have own := h.paired nodes
  unfold declaration?
  rw [Source.isCandidate_eq nodes,
    Source.qualifiedName?_eq h.modules.file.path h.modules.file.bytes own,
    Module.isExported_eq h.modules.paired own, nodes.isAnnotated_eq, h.file.path, Source.firstLine,
    Source.firstLine, Source.lastLine, Source.lastLine, nodes.node.start_eq,
    nodes.node.stop_eq, Source.row_eq_of_fills h.file.bytes, Source.row_eq_of_fills h.file.bytes]
  rcases cases_of_optionRel (Source.Paired.named nodes "name" rfl) with
    ⟨n, n'⟩ | ⟨name, name', n, n', -, same⟩
  · rw [n, n']
  · simp only [n, n', same]

theorem declarationsOf_eq (markers : List String) (h : StandFor p p' f f' m m') :
    declarationsOf p' markers f' = declarationsOf p markers f := by
  rw [declarationsOf, declarationsOf, h.here, h.here']
  refine (Beside.root h.file.tree).walk.filterMap_eq
    (fun c c' nodes => declaration?_eq markers h nodes) ?_
  intro before d comment
  have kind : d.kind = "comment" := comment.kind
  simp [declaration?, Source.isCandidate, kind, Kind.isFunctionDeclaration, Kind.functionDeclarations]

theorem enclosingCaller_eq (file : Source.WithComments mayFollow f f') (nodes : f.Paired f' c c') :
    enclosingCaller f' c' = enclosingCaller f c := by
  rw [enclosingCaller, enclosingCaller, Source.moduleScopeName, Source.moduleScopeName,
    Source.modulePart, Source.modulePart, file.path]
  refine congrArg (Option.getD · _) (findSome?_eq_of_forall₂ nodes.ancestors fun a a' outer => ?_)
  rw [outer.kind_eq, Source.qualifiedName?_eq file.path file.bytes outer]

theorem fileEdges_eq (programs : p.Paired p') (h : StandFor p p' f f' m m') :
    fileEdges p' f' = fileEdges p f := by
  have sites : List.Forall₂ (fun c c' => f.Paired f' c c' ∧ (c.kind == "call_expression") = true)
      (callSites f) (callSites f') := by
    refine (Beside.root h.file.tree).walk.forall₂_filter (fun c c' nodes => by rw [nodes.kind_eq]) ?_
    intro before d comment
    simp [Cursor.kind, comment.kind]
  rw [fileEdges, fileEdges, h.here, h.here']
  refine filterMap_eq_of_forall₂ sites fun c c' nodes => ?_
  have own := h.paired nodes.1
  have callee : calleeOf p' m' c' = calleeOf p m c := by
    unfold calleeOf
    rcases cases_of_optionRel (own.child? "function") with ⟨e, e'⟩ | ⟨d, d', e, e', inner⟩
    · rw [e, e']
    · rw [e, e']
      exact Program.resolveCallee_eq programs h.modules inner
  rw [callee, enclosingCaller_eq h.modules.file own]

end file

/-! ## All files -/

section files

variable {sources sources' : List Source}

/-- Every file is stood for by modules with its bytes, when files with the same path are the same. -/
theorem standFor_of_agree (agree : AgreeByPath sources) (agree' : AgreeByPath sources')
    (h : List.Forall₂ (Source.WithComments mayFollow) sources sources') :
    List.Forall₂ (fun f f' => ∃ m m',
      StandFor (.ofSources sources) (.ofSources sources') f f' m m') sources sources' := by
  have programs := Program.ofSources_paired h
  have listed : List.Forall₂ (fun f f' => f ∈ sources ∧ f' ∈ sources' ∧
      Source.WithComments mayFollow f f') sources sources' := by
    refine (List.forall₂_and_left _ _).2 ⟨fun f mem => mem, ?_⟩
    exact ((List.forall₂_and_left _ _).2 ⟨fun f' mem => mem, h.flip⟩).flip
  refine listed.imp ?_
  rintro f f' ⟨mem, mem', file⟩
  obtain ⟨m, here⟩ := Program.exists_module?_of_mem mem
  rcases cases_of_optionRel (programs f.path) with ⟨missing, -⟩ | ⟨m₁, m', e, e', modules⟩
  · rw [here] at missing
    cases missing
  · obtain rfl : m = m₁ := Option.some.inj (here.symm.trans e)
    -- the last files of the path may be other ones, with the same bytes
    obtain ⟨g, known, path, rfl⟩ := Program.exists_source_of_module? here
    obtain ⟨g', known', path', rfl⟩ := Program.exists_source_of_module? e'
    refine ⟨_, _, file, modules, here, file.path ▸ e', ?_, ?_⟩
    · rw [Module.index_source]
      exact (agree g known f mem path).1
    · rw [Module.index_source]
      exact (agree' g' known' f' mem' (path'.trans file.path.symm)).1

/-- Comments in the place of white space change neither a declaration nor a call nor a finding, unless
one stands where the first child of a node is read, or every child, whatever it is. -/
theorem deadCode_withComments (markers : List String) (confidence : Number)
    (sources sources' : List Source) (agree : AgreeByPath sources) (agree' : AgreeByPath sources')
    (h : List.Forall₂ (Source.WithComments mayFollow) sources sources') :
    allDeclarations (.ofSources sources') markers sources' =
        allDeclarations (.ofSources sources) markers sources ∧
      callGraph (.ofSources sources') sources' = callGraph (.ofSources sources) sources ∧
      deadCode markers confidence sources' = deadCode markers confidence sources := by
  have programs := Program.ofSources_paired h
  have standing := standFor_of_agree agree agree' h
  have declarations : allDeclarations (.ofSources sources') markers sources' =
      allDeclarations (.ofSources sources) markers sources :=
    flatMap_eq_of_forall₂ standing fun f f' ⟨_, _, stands⟩ => declarationsOf_eq markers stands
  have calls : callGraph (.ofSources sources') sources' = callGraph (.ofSources sources) sources := by
    refine foldl_eq_of_forall₂ standing (fun f f' ⟨_, _, stands⟩ g => ?_) CallGraph.empty
    rw [fileGraph, fileGraph, fileEdges_eq programs stands]
  refine ⟨declarations, calls, ?_⟩
  rw [deadCode, deadCode, declarations, calls]

end files

/-! ## A comment after the callee and one before it -/

def wideCallee : Node := ⟨"identifier", true, none, 25, 26, []⟩

/-- A file `a.ts` that declares a function in its first line and calls it in the second, by its name in
wide parentheses. -/
def wideCall (text : String) (inParentheses : List Node) : Source where
  path := "a.ts"
  language := "typescript"
  bytes := Text.Utf8.encode text
  tree := ⟨"program", true, none, 0, 39,
    [⟨"function_declaration", true, none, 0, 15,
      [⟨"identifier", true, some "name", 9, 10, []⟩,
       ⟨"formal_parameters", true, some "parameters", 10, 12, []⟩,
       ⟨"statement_block", true, some "body", 13, 15, []⟩]⟩,
     ⟨"expression_statement", true, none, 16, 38,
      [⟨"call_expression", true, none, 16, 37,
        [⟨"parenthesized_expression", true, some "function", 16, 35, inParentheses⟩,
         ⟨"arguments", true, some "arguments", 35, 37, []⟩]⟩]⟩]⟩

def bareCall : Source := wideCall "function f() {}\n(        f        )();\n" [wideCallee]

/-- The file with a comment after the name that is called. -/
def lateComment : Source :=
  wideCall "function f() {}\n(        f /* c */)();\n" [wideCallee, ⟨"comment", true, none, 27, 34, []⟩]

/-- The file with a comment before the name that is called. -/
def earlyComment : Source :=
  wideCall "function f() {}\n(/* c */ f        )();\n" [⟨"comment", true, none, 17, 24, []⟩, wideCallee]

theorem bareCall_late : Source.WithComments mayFollow bareCall lateComment := by
  refine ⟨rfl, by decide +kernel, ?_⟩
  refine .mk rfl rfl rfl rfl rfl (by decide +kernel) (.keep ?_ (.keep ?_ .nil))
  · refine .mk rfl rfl rfl rfl rfl (by decide +kernel) (.keep ?_ (.keep ?_ (.keep ?_ .nil)))
    all_goals exact .leaf (by decide +kernel) rfl
  · refine .mk rfl rfl rfl rfl rfl (by decide +kernel) (.keep ?_ .nil)
    refine .mk rfl rfl rfl rfl rfl (by decide +kernel) (.keep ?_ (.keep ?_ .nil))
    · refine .mk rfl rfl rfl rfl rfl (by decide +kernel) (.keep ?_ (.insert ?_ .nil))
      · exact .leaf (by decide +kernel) rfl
      · exact ⟨⟨rfl, rfl, rfl, rfl⟩, by decide +kernel⟩
    · exact .leaf (by decide +kernel) rfl

theorem bareCall_early : Source.WithComments (fun _ _ => true) bareCall earlyComment := by
  refine ⟨rfl, by decide +kernel, ?_⟩
  refine .mk rfl rfl rfl rfl rfl (by decide +kernel) (.keep ?_ (.keep ?_ .nil))
  · refine .mk rfl rfl rfl rfl rfl (by decide +kernel) (.keep ?_ (.keep ?_ (.keep ?_ .nil)))
    all_goals exact .leaf (by decide +kernel) rfl
  · refine .mk rfl rfl rfl rfl rfl (by decide +kernel) (.keep ?_ .nil)
    refine .mk rfl rfl rfl rfl rfl (by decide +kernel) (.keep ?_ (.keep ?_ .nil))
    · refine .mk rfl rfl rfl rfl rfl (by decide +kernel) (.insert ?_ (.keep ?_ .nil))
      · exact ⟨⟨rfl, rfl, rfl, rfl⟩, by decide +kernel⟩
      · exact .leaf (by decide +kernel) rfl
    · exact .leaf (by decide +kernel) rfl

/-- After the name a comment changes nothing, and the call is known. -/
theorem deadCode_withComments_late :
    (allDeclarations (.ofSources [lateComment]) defaultTestMarkers [lateComment]).map
        (·.qualifiedName) = ["\"a.ts\".f"] ∧
      (callGraph (.ofSources [lateComment]) [lateComment]).edges =
        [("\"a.ts\".f", "\"a.ts\".<module>")] ∧
      deadCode defaultTestMarkers (.int 1) [lateComment] =
        deadCode defaultTestMarkers (.int 1) [bareCall] := by
  obtain ⟨declarations, calls, report⟩ := deadCode_withComments defaultTestMarkers (.int 1)
    [bareCall] [lateComment] (agreeByPath_of_nodup (by decide)) (agreeByPath_of_nodup (by decide))
    (.cons bareCall_late .nil)
  rw [declarations, calls]
  exact ⟨by decide +kernel, by decide +kernel, report⟩

/-- A comment in front of the name that is called hides the call, and the function is reported. -/
theorem comment_hides_callee :
    Source.WithComments (fun _ _ => true) bareCall earlyComment ∧
      (callGraph (.ofSources [bareCall]) [bareCall]).edges =
        [("\"a.ts\".f", "\"a.ts\".<module>")] ∧
      (callGraph (.ofSources [earlyComment]) [earlyComment]).edges = [] ∧
      (deadCode defaultTestMarkers (.int 1) [bareCall]).map (·.qualifiedName) = [] ∧
      (deadCode defaultTestMarkers (.int 1) [earlyComment]).map (·.qualifiedName) =
        ["\"a.ts\".f"] :=
  ⟨bareCall_early, by decide +kernel⟩

end RepoAudit

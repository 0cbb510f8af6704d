import RoutePattern.Proofs.Placement

/-!
# The path decides

What stands before the path of a pattern text, the method and the host, has no say in how the text
is read and built. Texts with the same pieces behind any method and host are refused for the same
segment or read as the same segments (`Cut.readAlike`), and the segments decide the number of
values, the errors about it, and what is built behind the host (`samePath_of_segments`). No part of
a method or a host is ever taken for a piece, whatever it looks like.
-/

namespace RoutePattern.Pattern

/-! ## Patterns of one path -/

/-- Two patterns build alike: the same text behind their hosts, or the same error about the number
of values. -/
structure SamePath (host host' : Text) (pattern pattern' : Pattern) : Prop where
  segments : pattern.segments = pattern'.segments
  arity : pattern.arity = pattern'.arity
  build : ∀ values,
    (∃ path, pattern.build values = .ok (host ++ path) ∧
      pattern'.build values = .ok (host' ++ path)) ∨
    (∃ expected, pattern.build values = .error (.notEnough pattern.source expected) ∧
      pattern'.build values = .error (.notEnough pattern'.source expected)) ∨
    (∃ got used, pattern.build values = .error (.tooMany pattern.source got used) ∧
      pattern'.build values = .error (.tooMany pattern'.source got used))

theorem arity_eq_of_segments {pattern pattern' : Pattern}
    (h : pattern.segments = pattern'.segments) : pattern.arity = pattern'.arity := by
  rw [arity, arity, hasTrailingSlash, hasTrailingSlash, h]

theorem samePath_of_segments {host host' : Text} {pattern pattern' : Pattern}
    (hhost : pattern.host = part? host) (hhost' : pattern'.host = part? host')
    (hsegments : pattern.segments = pattern'.segments) :
    SamePath host host' pattern pattern' := by
  have harity := arity_eq_of_segments hsegments
  refine ⟨hsegments, harity, ?_⟩
  intro values
  rcases build_cases pattern values with ⟨hlow, hfew⟩ | ⟨hhigh, hmany⟩ | ⟨texts, hplaced, hok⟩
  · refine Or.inr (Or.inl ⟨_, hfew, ?_⟩)
    rw [harity] at hlow ⊢
    exact build_of_lt_required hlow
  · refine Or.inr (Or.inr ⟨_, _, hmany, ?_⟩)
    rw [harity] at hhigh ⊢
    exact build_of_max_lt hhigh
  · refine Or.inl ⟨texts.flatMap ('/' :: ·), ?_, ?_⟩
    · rw [hok, assemble, hhost, part?_getD_nil]
    · rw [hsegments] at hplaced
      rw [hplaced.build_eq, assemble, hhost', part?_getD_nil]

theorem SamePath.build_eq_ok_iff {host host' : Text} {pattern pattern' : Pattern}
    (h : SamePath host host' pattern pattern') {values : List Text} {url : Text} :
    pattern.build values = .ok url ↔
      ∃ path, pattern'.build values = .ok (host' ++ path) ∧ url = host ++ path := by
  rcases h.build values with ⟨path, hbuild, hbuild'⟩ | ⟨expected, hbuild, hbuild'⟩ |
    ⟨got, used, hbuild, hbuild'⟩
  · rw [hbuild, hbuild']
    constructor
    · intro hurl
      exact ⟨path, rfl, (Except.ok.inj hurl).symm⟩
    · rintro ⟨path', hpath', rfl⟩
      rw [List.append_cancel_left (Except.ok.inj hpath')]
  · rw [hbuild, hbuild']
    simp
  · rw [hbuild, hbuild']
    simp

/-! ## Texts of one path -/

/-- Two texts with their hosts are refused for the same segment, or read as patterns of one path. -/
def ReadAlike (host host' source source' : Text) : Prop :=
  (∃ segment : Segment, segment.isTerminal = true ∧
    parse source = .error (misplacedError source segment) ∧
    parse source' = .error (misplacedError source' segment)) ∨
  ∃ pattern pattern', parse source = .ok pattern ∧ parse source' = .ok pattern' ∧
    pattern.host = part? host ∧ pattern'.host = part? host' ∧
    SamePath host host' pattern pattern'

theorem Cut.readAlike {source source' host host' : Text} {method method' : Option Text}
    {pieces : List Text} (h : Cut source method host pieces)
    (h' : Cut source' method' host' pieces) : ReadAlike host host' source source' := by
  cases hmisplaced : misplaced? (pieces.map Segment.ofSource) with
  | some segment =>
      have hterminal : segment.isTerminal = true := by
        rw [misplaced?_eq_find?] at hmisplaced
        exact List.find?_some hmisplaced
      exact Or.inl ⟨segment, hterminal, h.parse_of_misplaced hmisplaced,
        h'.parse_of_misplaced hmisplaced⟩
  | none =>
      exact Or.inr ⟨_, _, h.parse_eq_ok_iff.2 ⟨hmisplaced, rfl⟩,
        h'.parse_eq_ok_iff.2 ⟨hmisplaced, rfl⟩, rfl, rfl, samePath_of_segments rfl rfl rfl⟩

/-- A path is empty or a slash before each of its pieces. -/
theorem exists_pieces {path : Text} (h : path = [] ∨ path.head? = some '/') :
    ∃ pieces : List Text, path = pieces.flatMap ('/' :: ·) ∧ ∀ piece ∈ pieces, '/' ∉ piece := by
  cases path with
  | nil => exact ⟨[], rfl, nofun⟩
  | cons c t =>
      have hc : c = '/' := by simpa using h
      refine ⟨(Text.split '/' t).1 :: (Text.split '/' t).2, ?_, ?_⟩
      · rw [List.flatMap_cons, List.cons_append, Text.split_fst_append, hc]
      · intro piece hpiece
        rcases List.mem_cons.1 hpiece with rfl | hpiece
        · exact Text.not_mem_split_fst '/' t
        · exact Text.not_mem_of_mem_split_snd hpiece

theorem cut_of_method {m h : Text} {pieces : List Text} (hm : ' ' ∉ m) (hh : '/' ∉ h)
    (hpieces : ∀ piece ∈ pieces, '/' ∉ piece) :
    Cut (m ++ ' ' :: (h ++ pieces.flatMap ('/' :: ·))) (some m) h pieces := by
  refine ⟨by simp, nofun, ?_, hh, hpieces⟩
  intro m' hm'
  cases hm'
  exact hm

theorem cut_of_host {h : Text} {pieces : List Text}
    (hspace : ' ' ∉ h ++ pieces.flatMap ('/' :: ·)) (hh : '/' ∉ h)
    (hpieces : ∀ piece ∈ pieces, '/' ∉ piece) :
    Cut (h ++ pieces.flatMap ('/' :: ·)) none h pieces :=
  ⟨rfl, fun _ => hspace, nofun, hh, hpieces⟩

/-- **Method and host have no say in the path.** Behind any two methods and hosts a path is refused
for the same segment or read as the same segments, which take the same numbers of values with the
same errors and build the same text behind the host, the one that the path builds alone. Without a
method and its space the host and the path are read alike, as long as they hold no space. -/
theorem method_host_irrelevant {m m' h h' path : Text} (hm : ' ' ∉ m) (hm' : ' ' ∉ m')
    (hh : '/' ∉ h) (hh' : '/' ∉ h') (hpath : path = [] ∨ path.head? = some '/') :
    ReadAlike h h' (m ++ ' ' :: (h ++ path)) (m' ++ ' ' :: (h' ++ path)) ∧
    (∀ pattern, parse (m ++ ' ' :: (h ++ path)) = .ok pattern →
      ∃ bare, parse (' ' :: path) = .ok bare ∧ ∀ values url,
        pattern.build values = .ok url ↔
          ∃ rest, bare.build values = .ok rest ∧ url = h ++ rest) ∧
    (' ' ∉ h ++ path → ReadAlike h h (m ++ ' ' :: (h ++ path)) (h ++ path)) := by
  obtain ⟨pieces, rfl, hpieces⟩ := exists_pieces hpath
  have hcut := cut_of_method hm hh hpieces
  have hbare : Cut (' ' :: pieces.flatMap ('/' :: ·)) (some []) [] pieces :=
    cut_of_method List.not_mem_nil List.not_mem_nil hpieces
  refine ⟨hcut.readAlike (cut_of_method hm' hh' hpieces), ?_, ?_⟩
  · intro pattern hpattern
    rcases hcut.readAlike hbare with ⟨segment, -, herror, -⟩ |
      ⟨pattern', bare, hpattern', hread, -, -, hsame⟩
    · cases herror.symm.trans hpattern
    · obtain rfl := Except.ok.inj (hpattern'.symm.trans hpattern)
      exact ⟨bare, hread, fun values url => hsame.build_eq_ok_iff⟩
  · intro hspace
    exact hcut.readAlike (cut_of_host hspace hh hpieces)

/-- A method and a host that would be refused as pieces, and a host and a path without a method. -/
theorem method_host_irrelevant_lookalikes :
    ReadAlike "{$} {h...}".toList [] "a/{b...} {$} {h...}//{x}".toList " //{x}".toList ∧
    (∃ pattern, parse "a/{b...} {$} {h...}//{x}".toList = .ok pattern ∧
      pattern.build [['1']] = .ok "{$} {h...}//1".toList) ∧
    ReadAlike ['h'] ['h'] "M h/{$}/".toList "h/{$}/".toList := by
  have hpath := @method_host_irrelevant "a/{b...}".toList [] "{$} {h...}".toList [] "//{x}".toList
    (by decide) (by decide) (by decide) (by decide) (Or.inr rfl)
  have hrefused := @method_host_irrelevant ['M'] [] ['h'] [] "/{$}/".toList
    (by decide) (by decide) (by decide) (by decide) (Or.inr rfl)
  refine ⟨hpath.1, ⟨_, rfl, ?_⟩, hrefused.2.2 (by decide)⟩
  obtain ⟨bare, hbare, hbuild⟩ := hpath.2.1 _ rfl
  refine (hbuild [['1']] _).2 ⟨"//1".toList, ?_, rfl⟩
  cases hbare
  rfl

end RoutePattern.Pattern

import AsmExplorer.Proofs.Path.Normal
import AsmExplorer.Proofs.Text.Percent
import AsmExplorer.Uri.Document

/-!
# Paths that are read as they are written

Reading a URI drops blanks and controls, encodes, splits at slashes of two kinds, resolves dots and
rewrites drive letters.  None of this touches a path whose segments are `Settled`: the segments are
found again (`segments_append_rooted`) and put together as they were (`foldl_addSegment`), and so a
URI with such a path and no host is read back (`parseChars_file`, `parseChars_assembly`).  A drive
letter at the root of a `file` URI stays as well: the slash before it is a segment of its own while
the path is read.
-/

namespace AsmExplorer

namespace Uri

open AsmExplorer.Path (rooted)

/-! ### Characters -/

/-- Whether a character stands for itself in a segment: reading neither encodes it nor takes it for
a slash. -/
def isKept (c : Char) : Bool :=
  pathPlain c && c != '/' && c != '\\'

variable {c : Char} {cs segment : List Char} {parts more : List (List Char)}

theorem isKept_iff : isKept c = true ↔ pathPlain c = true ∧ c ≠ '/' ∧ c ≠ '\\' := by
  simp [isKept, and_assoc]

theorem pathPlain_ne (h : pathPlain c = true) : c ≠ ' ' ∧ c ≠ '?' ∧ c ≠ '#' := by
  refine ⟨?_, ?_, ?_⟩ <;> rintro rfl <;> exact absurd h (by decide)

theorem toNat_bounds_of_pathPlain (h : pathPlain c = true) : 0x20 ≤ c.toNat ∧ c.toNat < 0x7F := by
  simp only [pathPlain, fragmentPlain, isPrintable, Bool.and_eq_true, decide_eq_true_eq] at h
  exact h.1.1

theorem lt_toNat_of_pathPlain (h : pathPlain c = true) : 0x20 < c.toNat := by
  have hspace : c.toNat ≠ 0x20 := fun heq => (pathPlain_ne h).1 (Char.toNat_inj.1 heq)
  have hbounds := toNat_bounds_of_pathPlain h
  omega

theorem isSlash_eq_false (kind : SchemeKind) (h : isKept c = true) : kind.isSlash c = false := by
  obtain ⟨-, hslash, hback⟩ := isKept_iff.1 h
  simp [SchemeKind.isSlash, hslash, hback]

theorem strip_eq_self (h : ∀ c ∈ cs, 0x20 < c.toNat) : strip cs = cs := by
  have hdrop : ∀ {ds : List Char}, (∀ c ∈ ds, 0x20 < c.toNat) →
      ds.dropWhile (fun c => decide (c.toNat ≤ 0x20)) = ds := by
    intro ds hds
    cases ds with
    | nil => rfl
    | cons d ds =>
      exact List.dropWhile_cons_of_neg (by simpa using hds d List.mem_cons_self)
  rw [strip, hdrop h, hdrop fun c hc => h c (List.mem_reverse.1 hc), List.reverse_reverse]

theorem counted_eq_self (h : ∀ c ∈ cs, 0x20 < c.toNat) : counted cs = cs := by
  refine List.filter_eq_self.2 fun c hc => ?_
  have hlt : 0x20 < c.toNat := h c hc
  have hne (d : Char) (hd : d.toNat ≤ 0x20) : c ≠ d := by
    rintro rfl
    omega
  simp [isGap, hne '\t' (by decide), hne '\n' (by decide), hne '\r' (by decide)]

/-! ### Schemes -/

/-- Of a text that holds no blank, what follows the scheme is read at once. -/
theorem parseChars_eq_readFile {scheme rest : List Char} (h : ∀ c ∈ cs, 0x20 < c.toNat)
    (hscheme : splitScheme cs = some (scheme, rest)) (hkind : SchemeKind.of scheme = .file) :
    parseChars cs = readFile scheme ((cs.dropWhile (· != ':')).drop 1) := by
  simp only [parseChars, strip_eq_self h, counted_eq_self h, hscheme, hkind]

theorem parseChars_eq_readPlain {scheme rest : List Char} (h : ∀ c ∈ cs, 0x20 < c.toNat)
    (hscheme : splitScheme cs = some (scheme, rest)) (hkind : SchemeKind.of scheme = .plain) :
    parseChars cs = readPlain scheme rest := by
  simp only [parseChars, strip_eq_self h, counted_eq_self h, hscheme, hkind]

/-! ### Segments -/

/-- A segment of a path that reading leaves as it is. -/
structure Settled (segment : List Char) : Prop where
  isKept_of_mem : ∀ c ∈ segment, isKept c = true
  not_up : isUp segment = false
  not_here : isHere segment = false

theorem settled_nil : Settled [] :=
  ⟨by simp, by decide, by decide⟩

theorem Settled.pathPlain_of_mem (h : Settled segment) (hc : c ∈ segment) : pathPlain c = true :=
  (isKept_iff.1 (h.isKept_of_mem c hc)).1

theorem pathPlain_of_mem_rooted (h : ∀ part ∈ parts, Settled part) (hc : c ∈ rooted '/' parts) :
    pathPlain c = true := by
  obtain ⟨part, hpart, hc⟩ := List.mem_flatMap.1 hc
  obtain rfl | hc := List.mem_cons.1 hc
  · decide
  · exact (h part hpart).pathPlain_of_mem hc

/-- A path of settled segments holds no blank, nor does what stands before it. -/
theorem lt_toNat_of_mem_append_rooted (front : List Char)
    (hfront : (front.all fun c => 0x20 < c.toNat) = true) (h : ∀ part ∈ parts, Settled part) :
    ∀ c ∈ front ++ rooted '/' parts, 0x20 < c.toNat := by
  intro c hc
  obtain hc | hc := List.mem_append.1 hc
  · exact of_decide_eq_true (List.all_eq_true.1 hfront c hc)
  · exact lt_toNat_of_pathPlain (pathPlain_of_mem_rooted h hc)

/-- The segments of a path, each with whether a slash follows it. -/
def flagged : List Char → List (List Char) → List (List Char × Bool)
  | segment, [] => [(segment, false)]
  | segment, next :: more => (segment, true) :: flagged next more

/-- Characters that stand for themselves lengthen the first segment. -/
theorem segments_append {kind : SchemeKind} {rest after first : List Char} {slash : Bool}
    {others : List (List Char × Bool)} (hkept : ∀ c ∈ segment, isKept c = true)
    (h : segments kind rest = ((first, slash) :: others, after)) :
    segments kind (segment ++ rest) = ((segment ++ first, slash) :: others, after) := by
  induction segment with
  | nil => exact h
  | cons c segment ih =>
    have hc : isKept c = true := hkept c List.mem_cons_self
    obtain ⟨-, hquery, hfragment⟩ := pathPlain_ne (isKept_iff.1 hc).1
    rw [List.cons_append, segments, if_neg (not_or.2 ⟨hquery, hfragment⟩),
      ih fun d hd => hkept d (List.mem_cons_of_mem _ hd)]
    simp [isSlash_eq_false kind hc]

theorem segments_append_rooted (kind : SchemeKind)
    (h : ∀ part ∈ segment :: more, Settled part) :
    segments kind (segment ++ rooted '/' more) = (flagged segment more, []) := by
  induction more generalizing segment with
  | nil =>
    have hend : segments kind [] = ([([], false)], []) := rfl
    simpa [flagged] using segments_append (h segment List.mem_cons_self).isKept_of_mem hend
  | cons next more ih =>
    -- the slash ends this segment, and after it stands a shorter path
    have hslash : segments kind (rooted '/' (next :: more)) =
        (([], true) :: flagged next more, []) := by
      rw [Path.rooted_cons, List.cons_append, segments, if_neg (by decide),
        ih fun part hpart => h part (List.mem_cons_of_mem _ hpart)]
      simp [SchemeKind.isSlash]
    simpa [flagged] using segments_append (h segment List.mem_cons_self).isKept_of_mem hslash

/-! ### Putting segments together -/

/-- A settled segment is added as it is; only at the root of a `file` URI it might be a drive
letter. -/
theorem addSegment_eq {kind : SchemeKind} {s : PathSoFar} (h : Settled segment)
    (hlong : kind = .file → 2 ≤ s.path.length) (slash : Bool) :
    addSegment kind s (segment, slash) =
      { s with path := s.path ++ segment ++ if slash then ['/'] else [] } := by
  have hencode : Text.percentEncode pathPlain (Text.utf8 (counted segment)) = segment := by
    rw [counted_eq_self fun c hc => lt_toNat_of_pathPlain (h.pathPlain_of_mem hc)]
    refine Text.percentEncode_utf8_eq_self fun c hc => ?_
    have hplain := h.pathPlain_of_mem hc
    exact ⟨Nat.lt_succ_of_lt (toNat_bounds_of_pathPlain hplain).2, hplain⟩
  -- both rules for drive letters are for a path that is the root alone
  have hroot : ¬(kind = .file ∧ s.path.length = 1) := by
    rintro ⟨hfile, hone⟩
    have hlength := hlong hfile
    omega
  have hdrive : ¬(kind = .file ∧ s.path.length = 1 ∧ isDrive segment = true) :=
    fun hfile => hroot ⟨hfile.1, hfile.2.1⟩
  simp only [addSegment, hencode, if_neg hroot, h.not_up, h.not_here, if_neg hdrive,
    Bool.false_eq_true, if_false]

theorem foldl_addSegment {kind : SchemeKind} {s : PathSoFar}
    (h : ∀ part ∈ segment :: more, Settled part) (hlong : kind = .file → 2 ≤ s.path.length) :
    (flagged segment more).foldl (addSegment kind) s =
      { s with path := s.path ++ segment ++ rooted '/' more } := by
  have hfirst : Settled segment := h segment List.mem_cons_self
  induction more generalizing segment s with
  | nil =>
    rw [flagged, List.foldl_cons, addSegment_eq hfirst hlong]
    rfl
  | cons next more ih =>
    have hrest : ∀ part ∈ next :: more, Settled part :=
      fun part hpart => h part (List.mem_cons_of_mem _ hpart)
    rw [flagged, List.foldl_cons, addSegment_eq hfirst hlong, ih hrest
      (fun hfile => by simp only [List.length_append]; have := hlong hfile; omega)
      (hrest next List.mem_cons_self)]
    simp

/-! ### Reading -/

theorem readPath_plain {path : List Char} (h : ∀ part ∈ segment :: more, Settled part) :
    readPath .plain path (segment ++ rooted '/' more) =
      ({ path := path ++ segment ++ rooted '/' more, onDrive := false }, []) := by
  simp only [readPath, segments_append_rooted .plain h,
    foldl_addSegment h fun hfile : SchemeKind.plain = .file => nomatch hfile]
  rfl

/-- The slashes at the start of the path of a `file` URI collapse to one. -/
theorem dropWhile_slashes (h : ∀ part ∈ segment :: more, Settled part)
    (hne : segment = [] → more = []) :
    ('/' :: '/' :: (segment ++ rooted '/' more)).dropWhile (· == '/') =
      segment ++ rooted '/' more := by
  rw [List.dropWhile_cons_of_pos (by rfl), List.dropWhile_cons_of_pos (by rfl)]
  cases segment with
  | nil => simp [hne rfl]
  | cons c segment =>
    have hc := (isKept_iff.1 ((h _ List.mem_cons_self).isKept_of_mem c List.mem_cons_self)).2.1
    exact List.dropWhile_cons_of_neg (by simpa using hc)

theorem readPath_file (h : ∀ part ∈ segment :: more, Settled part)
    (hne : segment = [] → more = []) :
    readPath .file ['/'] (rooted '/' (segment :: more)) =
      ({ path := rooted '/' (segment :: more), onDrive := false }, []) := by
  have hempty : ∀ part ∈ [] :: segment :: more, Settled part :=
    List.forall_mem_cons.2 ⟨settled_nil, h⟩
  have hsegments := segments_append_rooted .file hempty
  rw [List.nil_append, flagged] at hsegments
  -- the first of the two slashes makes the path longer than the root alone
  have hroot : addSegment .file { path := ['/'], onDrive := false } ([], true) =
      { path := ['/', '/'], onDrive := false } := rfl
  have hfold : (flagged segment more).foldl (addSegment .file)
      { path := ['/', '/'], onDrive := false } =
      { path := ['/', '/'] ++ segment ++ rooted '/' more, onDrive := false } :=
    foldl_addSegment h fun _ => Nat.le_refl 2
  simp only [readPath, hsegments, List.foldl_cons, hroot, hfold, if_true]
  simp only [List.cons_append, List.nil_append, dropWhile_slashes h hne, Path.rooted_cons]
  rfl

theorem readFile_local (scheme text : List Char) :
    readFile scheme ('/' :: '/' :: '/' :: text) =
      let (done, after) := readPath .file ['/'] ('/' :: text)
      .ok (assemble .file scheme (some localAuthority) done.path after) :=
  rfl

/-- **The document of a path of settled segments is read back.** -/
theorem parseChars_file (h : ∀ part ∈ segment :: more, Settled part)
    (hne : segment = [] → more = []) :
    parseChars ("file".toList ++ ':' :: '/' :: '/' :: rooted '/' (segment :: more)) =
      .ok { scheme := "file".toList, authority := some localAuthority
            path := rooted '/' (segment :: more), query := none, fragment := none } := by
  have hclear : ∀ c ∈ "file".toList ++ ':' :: '/' :: '/' :: rooted '/' (segment :: more),
      0x20 < c.toNat :=
    lt_toNat_of_mem_append_rooted "file://".toList (by decide) h
  have hscheme : splitScheme ("file".toList ++ ':' :: '/' :: '/' :: rooted '/' (segment :: more)) =
      some ("file".toList, '/' :: '/' :: rooted '/' (segment :: more)) := rfl
  have hkind : SchemeKind.of "file".toList = .file := by decide
  have hread := readFile_local "file".toList (segment ++ rooted '/' more)
  rw [← List.cons_append, ← Path.rooted_cons, readPath_file h hne] at hread
  rw [parseChars_eq_readFile hclear hscheme hkind]
  exact hread

/-- **So is that of a scheme without rules of its own.** -/
theorem parseChars_assembly (h : ∀ part ∈ segment :: more, Settled part) (hne : segment ≠ []) :
    parseChars (assemblyScheme ++ ':' :: rooted '/' (segment :: more)) =
      .ok { scheme := assemblyScheme, authority := none
            path := rooted '/' (segment :: more), query := none, fragment := none } := by
  have hclear : ∀ c ∈ assemblyScheme ++ ':' :: rooted '/' (segment :: more), 0x20 < c.toNat :=
    lt_toNat_of_mem_append_rooted "assembly:".toList (by decide) h
  have hscheme : splitScheme (assemblyScheme ++ ':' :: rooted '/' (segment :: more)) =
      some (assemblyScheme, rooted '/' (segment :: more)) := rfl
  have hkind : SchemeKind.of assemblyScheme = .plain := by decide
  rw [parseChars_eq_readPlain hclear hscheme hkind]
  -- a second slash would start a host, but the first segment is not empty
  have hread : readPath .plain ['/'] (segment ++ rooted '/' more) = _ := readPath_plain h
  obtain ⟨c, segment, rfl⟩ := List.exists_cons_of_ne_nil hne
  have hc : c ≠ '/' :=
    (isKept_iff.1 ((h _ List.mem_cons_self).isKept_of_mem c List.mem_cons_self)).2.1
  simp only [Path.rooted_cons, List.cons_append] at hread ⊢
  rw [readPlain]
  · simp only [hread]
    rfl
  · intro rest hrest
    exact hc (List.cons.inj hrest).1

end Uri

end AsmExplorer

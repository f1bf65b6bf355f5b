import NodeCanvas.Proofs.Url.Encoding
import NodeCanvas.Proofs.Url.Parts
import NodeCanvas.Text.Blank

namespace NodeCanvas.Url

open Percent

/-- The text of an address on the web to which a path can be added. -/
structure IsBase (text : String) (base : Url) : Prop where
  reads : ofText text = .ok base
  web : base.scheme = "http" ∨ base.scheme = "https"
  query : base.query = none
  fragment : base.fragment = none
  /-- Nothing is dropped at the end of the text. -/
  ends : ∀ c ∈ text.toList.getLast?, isOuter c = false

structure Standing (name : String) : Prop where
  shown : ∀ c ∈ name.toList, inPath c = false
  whole : ∀ c ∈ name.toList, c ≠ '/' ∧ c ≠ '\\'
  notHere : isHere name.toList = false
  notAbove : isAbove name.toList = false

def stands (name : String) : Bool :=
  (name.toList.all fun c => !inPath c && c != '/' && c != '\\') && !isHere name.toList &&
    !isAbove name.toList

theorem stands_iff {name : String} : stands name = true ↔ Standing name := by
  simp only [stands, Bool.and_eq_true, List.all_eq_true, Bool.not_eq_true', bne_iff_ne]
  constructor
  · rintro ⟨⟨hchars, hhere⟩, habove⟩
    exact ⟨fun c hc => (hchars c hc).1.1, fun c hc => ⟨(hchars c hc).1.2, (hchars c hc).2⟩, hhere,
      habove⟩
  · intro h
    exact ⟨⟨fun c hc => ⟨⟨h.shown c hc, (h.whole c hc).1⟩, (h.whole c hc).2⟩, h.notHere⟩,
      h.notAbove⟩

instance (name : String) : Decidable (Standing name) := decidable_of_iff _ stands_iff

/-- The segments of a path that another one follows. -/
def leading (scheme : String) : List Char → List String
  | [] => []
  | _ :: path =>
    (path.splitOnP (isSeparator scheme)).foldl
      (fun names name => addSegment inPath names name false) []

theorem network_of_web {scheme : String} (h : scheme = "http" ∨ scheme = "https") :
    isNetworkScheme scheme = true := by
  rcases h with rfl | rfl <;> decide

theorem toNat_of_inPath {c : Char} (h : inPath c = false) : 0x20 < c.toNat := by
  by_contra hle
  have hcontrol : ¬c.toNat < 0x20 := fun hlt => by simp [inPath, inQuery, isControl, hlt] at h
  obtain rfl : c = ' ' := Char.toNat_inj.mp (show c.toNat = 0x20 by omega)
  exact absurd h (by decide)

theorem isOuter_of_inPath {c : Char} (h : inPath c = false) : isOuter c = false := by
  simpa [isOuter] using toNat_of_inPath h

theorem isIgnored_of_inPath {c : Char} (h : inPath c = false) : isIgnored c = false := by
  have hne : ∀ d : Char, d.toNat ≤ 0x20 → c ≠ d := by
    rintro d hd rfl
    exact absurd (toNat_of_inPath h) (by omega)
  simp [isIgnored, hne '\t' (by decide), hne '\n' (by decide), hne '\r' (by decide)]

section Paths

variable {scheme : String} {names : List String}

theorem toList_text (names : List String) :
    (UrlPath.segments names).text.toList = names.flatMap fun name => '/' :: name.toList := by
  simp [UrlPath.text, String.toList_join, List.flatMap_map, String.toList_append]

theorem Standing.splitOnP {name : String} (h : Standing name) (scheme : String) :
    name.toList.splitOnP (isSeparator scheme) = [name.toList] :=
  List.splitOnP_eq_singleton fun c hc => by simp [isSeparator, h.whole c hc]

theorem splitOnP_append_names (hnames : ∀ name ∈ names, Standing name) (front : List Char) :
    (front ++ names.flatMap fun name => '/' :: name.toList).splitOnP (isSeparator scheme) =
      front.splitOnP (isSeparator scheme) ++ names.map String.toList := by
  induction names generalizing front with
  | nil => simp
  | cons name names ih =>
      rw [List.forall_mem_cons] at hnames
      rw [List.flatMap_cons, List.cons_append,
        List.splitOnP_append_cons _ _ (isSeparator_slash scheme), ih hnames.2,
        hnames.1.splitOnP]
      rfl

theorem addSegment_standing {name : String} (h : Standing name) (front : List String)
    (last : Bool) : addSegment inPath front name.toList last = front ++ [name] := by
  simp [addSegment, encode_eq_self h.shown, h.notHere, h.notAbove]

theorem addSegments_standing (hnames : ∀ name ∈ names, Standing name) (front : List String) :
    addSegments front (names.map String.toList) = front ++ names := by
  induction names generalizing front with
  | nil => simp [addSegments]
  | cons name names ih =>
      rw [List.forall_mem_cons] at hnames
      cases names with
      | nil => exact addSegment_standing hnames.1 front true
      | cons next names =>
          rw [List.map_cons, List.map_cons, addSegments, ← List.map_cons, ih hnames.2,
            addSegment_standing hnames.1, List.append_assoc, List.singleton_append]
          simp

theorem addSegments_append {more : List (List Char)} (hmore : more ≠ [])
    (front : List String) (segments : List (List Char)) :
    addSegments front (segments ++ more) =
      addSegments
        (segments.foldl (fun names name => addSegment inPath names name false) front) more := by
  induction segments generalizing front with
  | nil => rfl
  | cons segment segments ih =>
      rw [List.cons_append, addSegments, ih, List.foldl_cons]
      simpa using fun _ => hmore

/-- The end of a path makes a difference only to dots. -/
theorem addSegments_eq_or {segments : List (List Char)} (hsegments : segments ≠ [])
    (front : List String) :
    let names := segments.foldl (fun names name => addSegment inPath names name false) front
    addSegments front segments = names ∨ addSegments front segments = names ++ [""] := by
  obtain ⟨segments, last, rfl⟩ := (List.eq_nil_or_concat segments).resolve_left hsegments
  rw [List.concat_eq_append, addSegments_append (by simp)]
  simp only [List.foldl_append, List.foldl_cons, List.foldl_nil, addSegments, addSegment]
  split
  · exact .inr rfl
  · split
    · exact .inr rfl
    · exact .inl rfl

variable {own : List Char}

theorem pathAfterHost_append (hown : ∀ c ∈ own.head?, isSeparator scheme c = true)
    (hnames : ∀ name ∈ names, Standing name) (hsome : names ≠ []) :
    pathAfterHost scheme (own ++ names.flatMap fun name => '/' :: name.toList) =
      .segments (leading scheme own ++ names) := by
  cases own with
  | nil =>
      obtain ⟨name, names, rfl⟩ := List.exists_cons_of_ne_nil hsome
      rw [List.forall_mem_cons] at hnames
      rw [List.nil_append, List.flatMap_cons, List.cons_append, pathAfterHost,
        if_pos (isSeparator_slash scheme), segments, splitOnP_append_names hnames.2,
        hnames.1.splitOnP, List.singleton_append, ← List.map_cons,
        addSegments_standing (List.forall_mem_cons.mpr hnames)]
      rfl
  | cons c own =>
      rw [List.cons_append, pathAfterHost, if_pos (hown c rfl), segments,
        splitOnP_append_names hnames, addSegments_append (by simpa using hsome),
        addSegments_standing hnames, leading]

theorem standing_empty : Standing "" := ⟨nofun, nofun, rfl, rfl⟩

theorem flatMap_replicate_empty (count : Nat) :
    ((List.replicate count "").flatMap fun name => '/' :: name.toList) =
      List.replicate count '/' := by
  simp [List.flatMap_replicate, List.flatten_replicate_singleton]

theorem pathAfterHost_slashes (hnetwork : isNetworkScheme scheme = true)
    (hown : ∀ c ∈ own.head?, isSeparator scheme c = true) (count : Nat) :
    ∃ left, pathAfterHost scheme (own ++ List.replicate count '/') =
      .segments (leading scheme own ++ List.replicate left "") := by
  cases count with
  | zero =>
      -- Nothing follows, and the base may end in a host or in a dot.
      rw [List.replicate_zero, List.append_nil]
      cases own with
      | nil => exact ⟨1, by simp [pathAfterHost, takesBackslash, hnetwork, leading]⟩
      | cons c own =>
          rw [pathAfterHost, if_pos (hown c rfl), segments]
          rcases addSegments_eq_or (List.splitOnP_ne_nil (isSeparator scheme) own) [] with
            hplain | hdots
          · exact ⟨0, by rw [hplain, leading, List.replicate_zero, List.append_nil]⟩
          · exact ⟨1, by rw [hdots, leading]; rfl⟩
  | succ count =>
      rw [← flatMap_replicate_empty]
      exact ⟨count + 1, pathAfterHost_append hown
        (fun name hname => List.eq_of_mem_replicate hname ▸ standing_empty) (by simp)⟩

end Paths

section Trimming

variable {text front path : List Char}

theorem dropEndWhile_append_replicate (drop : Char) (text : List Char) :
    ∃ count, text = Text.dropEndWhile (· == drop) text ++ List.replicate count drop := by
  refine ⟨(text.rtakeWhile (· == drop)).length, ?_⟩
  have hdropped : text.rtakeWhile (· == drop) =
      List.replicate (text.rtakeWhile (· == drop)).length drop :=
    List.eq_replicate_iff.mpr ⟨rfl, fun c hc => by simpa using List.mem_rtakeWhile_imp hc⟩
  rw [← hdropped]
  exact (List.rdropWhile_append_rtakeWhile (p := (· == drop))).symm

theorem mem_of_bare {c : Char} (h : c ∈ bare text) : c ∈ text :=
  List.dropWhile_subset _
    ((List.rdropWhile_prefix _ _).subset (List.mem_of_mem_filter h))

theorem bare_append (hfront : front.dropWhile isOuter ≠ [])
    (hends : ∀ c ∈ (front ++ path).getLast?, isOuter c = false)
    (hpath : ∀ c ∈ path, isIgnored c = false) :
    bare (front ++ path) = (front.dropWhile isOuter).filter (fun c => !isIgnored c) ++ path := by
  have hlast : ∀ h, ¬isOuter (((front ++ path).dropWhile isOuter).getLast h) = true := by
    intro h
    rw [(List.dropWhile_suffix isOuter).getLast h, Bool.not_eq_true]
    exact hends _ (List.getLast?_eq_getLast_of_ne_nil _)
  rw [bare, List.rdropWhile_eq_self_iff.mpr hlast, dropWhile_append_of_ne_nil hfront,
    List.filter_append]
  congr 1
  exact List.filter_eq_self.mpr fun c hc => by rw [hpath c hc]; rfl

theorem eq_append_of_replicate {c d : Char} {name rest : List Char} {count : Nat} (hne : c ≠ d)
    (h : text ++ List.replicate count d = name ++ c :: rest) :
    ∃ middle, text = name ++ c :: middle ∧ rest = middle ++ List.replicate count d := by
  rcases List.append_eq_append_iff.mp h with ⟨behind, -, hbehind⟩ | ⟨middle, htext, hrest⟩
  · have hmem : c ∈ List.replicate count d := by simp [hbehind]
    exact absurd (List.eq_of_mem_replicate hmem) hne
  · cases middle with
    | nil =>
        have hmem : c ∈ List.replicate count d := by
          rw [← List.nil_append (List.replicate count d), ← hrest]
          exact List.mem_cons_self
        exact absurd (List.eq_of_mem_replicate hmem) hne
    | cons first middle =>
        obtain ⟨rfl, rfl⟩ := List.cons.inj hrest
        exact ⟨middle, htext, rfl⟩

end Trimming

structure Follows (path : List Char) : Prop where
  shown : ∀ c ∈ path, inPath c = false
  begins : path.head? = some '/'

theorem Follows.ends {path : List Char} (h : Follows path) (front : List Char) :
    ∀ c ∈ (front ++ path).getLast?, isOuter c = false := by
  intro c hc
  have hsome : path ≠ [] := by
    rintro rfl
    cases h.begins
  rw [List.getLast?_append_of_ne_nil _ hsome] at hc
  exact isOuter_of_inPath (h.shown c (List.mem_of_mem_getLast? hc))

theorem Follows.forall_append {path front slashes : List Char} {mark : Char}
    (h : Follows path) (hmark : inPath mark = true)
    (hfront : ∀ c ∈ front ++ slashes, (c == mark) = false) :
    ∀ c ∈ front ++ path, (c == mark) = false := by
  intro c hc
  rcases List.mem_append.mp hc with hc | hc
  · exact hfront c (List.mem_append_left _ hc)
  · rw [beq_eq_false_iff_ne]
    rintro rfl
    rw [h.shown c hc] at hmark
    cases hmark

theorem follows_names {names : List String} (hsome : names ≠ [])
    (hnames : ∀ name ∈ names, Standing name) :
    Follows (names.flatMap fun name => '/' :: name.toList) where
  shown c hc := by
    obtain ⟨name, hname, hc⟩ := List.mem_flatMap.mp hc
    rcases List.mem_cons.mp hc with rfl | hc
    · decide
    · exact (hnames name hname).shown c hc
  begins := by
    obtain ⟨name, names, rfl⟩ := List.exists_cons_of_ne_nil hsome
    rfl

/-- Of a path that follows a base address only the path of the address takes notice. -/
theorem IsBase.reads_append {text : String} {base : Url} (h : IsBase text base) :
    ∃ own count, (∀ c ∈ own.head?, isSeparator base.scheme c = true) ∧
      base.path = pathAfterHost base.scheme (own ++ List.replicate count '/') ∧
      ∀ path, Follows path →
        ofText (String.ofList (Text.dropEndWhile (· == '/') text.toList ++ path)) =
          .ok { base with path := pathAfterHost base.scheme (own ++ path) } := by
  have hnetwork := network_of_web h.web
  obtain ⟨rest, hscheme, hsharp, hmark, hhost⟩ :=
    (ofText_eq_ok_iff hnetwork h.query h.fragment).mp h.reads
  obtain ⟨name, hname, hletter, hlower, hbare⟩ := scheme?_eq_some_iff.mp hscheme
  obtain ⟨count, htext⟩ := dropEndWhile_append_replicate '/' text.toList
  generalize Text.dropEndWhile (· == '/') text.toList = front at htext ⊢
  have hslash : ∀ c ∈ List.replicate count '/', c = '/' := fun c => List.eq_of_mem_replicate
  have hfront : front.dropWhile isOuter ≠ [] := by
    intro hnil
    have hcolon : ':' ∈ text.toList := mem_of_bare (by simp [hbare])
    rw [htext, List.mem_append] at hcolon
    have hin := hcolon.resolve_right fun hin => absurd (hslash _ hin) (by decide)
    exact absurd (List.dropWhile_eq_nil_iff.mp hnil _ hin) (by decide)
  have hends := h.ends
  rw [htext] at hends hbare
  rw [bare_append hfront hends fun c hc => hslash c hc ▸ by decide] at hbare
  -- The colon behind the scheme is none of the slashes, so what is left of the base holds it.
  obtain ⟨middle, hfront', rfl⟩ := eq_append_of_replicate (by decide) hbare
  obtain ⟨own, hown, hbase, hpath⟩ := withHost_own hnetwork
    (fun c hc => hslash c hc ▸ isSeparator_slash base.scheme) hhost
  refine ⟨own, count, hown, hbase, fun path hfollows => ?_⟩
  have hread : bare (String.ofList (front ++ path)).toList =
      name ++ ':' :: (middle ++ path) := by
    rw [String.toList_ofList, bare_append hfront (hfollows.ends front)
      fun c hc => isIgnored_of_inPath (hfollows.shown c hc), hfront', List.append_assoc]
    rfl
  let found : Url := { base with path := pathAfterHost base.scheme (own ++ path) }
  refine (ofText_eq_ok_iff (u := found) hnetwork h.query h.fragment).mpr
    ⟨middle ++ path, ?_, ?_, ?_, ?_⟩
  · exact scheme?_eq_some_iff.mpr ⟨name, hname, hletter, hlower, hread⟩
  · exact hfollows.forall_append (by decide) hsharp
  · exact hfollows.forall_append (by decide) hmark
  · refine hpath path fun c hc => ?_
    rw [hfollows.begins] at hc
    cases hc
    exact isSeparator_slash base.scheme

/-- Names behind a base address are read below those of its path that are left of it. -/
theorem IsBase.ofText_endpoint {text : String} {base : Url} (h : IsBase text base) :
    ∃ front count, base.path = .segments (front ++ List.replicate count "") ∧
      ∀ names, names ≠ [] → (∀ name ∈ names, Standing name) →
        ofText (String.ofList (Text.dropEndWhile (· == '/') text.toList) ++
            (UrlPath.segments names).text) =
          .ok { base with path := .segments (front ++ names) } := by
  obtain ⟨own, count, hown, hbase, hreads⟩ := h.reads_append
  obtain ⟨left, hleft⟩ := pathAfterHost_slashes (network_of_web h.web) hown count
  refine ⟨leading base.scheme own, left, hbase.trans hleft, fun names hsome hnames => ?_⟩
  have htext : String.ofList (Text.dropEndWhile (· == '/') text.toList) ++
      (UrlPath.segments names).text = String.ofList (Text.dropEndWhile (· == '/') text.toList ++
        names.flatMap fun name => '/' :: name.toList) := by
    rw [String.ofList_append, ← toList_text, String.ofList_toList]
  rw [htext, hreads _ (follows_names hsome hnames), pathAfterHost_append hown hnames hsome]

end NodeCanvas.Url

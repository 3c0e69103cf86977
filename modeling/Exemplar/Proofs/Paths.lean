/-
What joining plain names to a path does to the names in it.

A program that makes and removes entries builds their paths by joining one name
after another to the path of a directory.  As long as the names are plain, that
only appends names: to the segments that the disk walks, and to the components by
which paths are compared.  The paths above a path have fewer of its segments, the
dots aside.
-/
import Exemplar.Files.Path

namespace Exemplar
namespace Path

/-- A name that stands for one entry of a directory and nothing else. -/
structure IsPlain (name : String) : Prop where
  ne_empty : name ≠ ""
  ne_here : name ≠ "."
  ne_parent : name ≠ ".."
  no_slash : '/' ∉ name.toList

theorem isPlain_iff {name : String} :
    IsPlain name ↔ name ≠ "" ∧ name ≠ "." ∧ name ≠ ".." ∧ '/' ∉ name.toList :=
  ⟨fun h => ⟨h.ne_empty, h.ne_here, h.ne_parent, h.no_slash⟩,
    fun h => ⟨h.1, h.2.1, h.2.2.1, h.2.2.2⟩⟩

instance (name : String) : Decidable (IsPlain name) := decidable_of_iff' _ isPlain_iff

/-! ## Segments -/

theorem segments_append_slash (a b : String) :
    (Path.mk (a ++ "/" ++ b)).segments = (Path.mk a).segments ++ (Path.mk b).segments := by
  have h : (a ++ "/" ++ b).toList = a.toList ++ '/' :: b.toList := by
    simp [String.toList_append]
  simp only [segments, h, List.splitOn_append_cons_self, List.filter_append, List.map_append]

theorem segments_empty : (Path.mk "").segments = [] := by simp [segments]

/-- A text without slashes is its own only segment. -/
theorem segments_of_no_slash {text : String} (hne : text ≠ "") (h : '/' ∉ text.toList) :
    (Path.mk text).segments = [text] := by
  have hlist : text.toList ≠ [] := fun e => hne (String.toList_eq_nil_iff.1 e)
  simp [segments, List.splitOn_eq_singleton h, hlist]

theorem isAbsolute_of_plain {name : String} (h : IsPlain name) :
    (Path.mk name).isAbsolute = false := by
  have hhead : name.toList.head? ≠ some '/' := fun e => h.no_slash (List.mem_of_mem_head? e)
  simpa [isAbsolute] using hhead

/-- The text of an entry, with one slash between the directory and the name. -/
theorem entry_eq {base : Path} {name : String} (h : IsPlain name) :
    base.entry name =
      if base.text = "" then ⟨name⟩
      else if base.endsInSlash then ⟨base.text ++ name⟩
      else ⟨base.text ++ "/" ++ name⟩ := by
  simp only [entry, join, isAbsolute_of_plain h, Bool.false_or, decide_eq_true_eq]

theorem endsInSlash_text {base : Path} (h : base.endsInSlash = true) :
    ∃ front, base.text = front ++ "/" := by
  have hlast : base.text.toList.getLast? = some '/' := by simpa [endsInSlash] using h
  obtain ⟨front, hfront⟩ := List.getLast?_eq_some_iff.1 hlast
  refine ⟨String.ofList front, ?_⟩
  rw [← String.toList_inj, String.toList_append, String.toList_ofList, hfront]
  rfl

theorem segments_slash_end (front : String) :
    (Path.mk (front ++ "/")).segments = (Path.mk front).segments := by
  have h := segments_append_slash front ""
  rwa [segments_empty, List.append_nil, String.append_empty] at h

/-- Joining a relative path appends its segments, however the directory is spelled. -/
theorem segments_join {base p : Path} (hp : p.isAbsolute = false) :
    (base.join p).segments = base.segments ++ p.segments := by
  by_cases hempty : base.text = ""
  · have hbase : base = ⟨""⟩ := by cases base; simp_all
    rw [join, if_pos (by simp [hempty]), hbase, segments_empty, List.nil_append]
  · rw [join, if_neg (by simp [hp, hempty])]
    by_cases hslash : base.endsInSlash = true
    · obtain ⟨front, hfront⟩ := endsInSlash_text hslash
      have hbase : base = ⟨front ++ "/"⟩ := by cases base; simp_all
      rw [if_pos hslash, hfront, segments_append_slash, hbase, segments_slash_end]
    · rw [if_neg hslash, segments_append_slash]

theorem segments_entry {base : Path} {name : String} (h : IsPlain name) :
    (base.entry name).segments = base.segments ++ [name] := by
  rw [entry, segments_join (isAbsolute_of_plain h), segments_of_no_slash h.ne_empty h.no_slash]

theorem isAbsolute_entry {base : Path} {name : String} (h : IsPlain name) :
    (base.entry name).isAbsolute = base.isAbsolute := by
  rw [entry_eq h]
  by_cases hempty : base.text = ""
  · have hbase : base.isAbsolute = false := by simp [isAbsolute, hempty]
    rw [if_pos hempty, hbase]
    exact isAbsolute_of_plain h
  · obtain ⟨first, rest, hlist⟩ := List.exists_cons_of_ne_nil
      (fun e => hempty (String.toList_eq_nil_iff.1 e) : base.text.toList ≠ [])
    rw [if_neg hempty]
    split <;> simp [isAbsolute, hlist]

theorem text_entry_ne_empty {base : Path} {name : String} (h : IsPlain name) :
    (base.entry name).text ≠ "" := by
  rw [entry_eq h]
  split
  · exact h.ne_empty
  · split <;> simp [h.ne_empty]

/-- One more name makes a path longer. -/
theorem size_lt_entry {base : Path} {name : String} (h : IsPlain name) :
    base.text.utf8ByteSize < (base.entry name).text.utf8ByteSize := by
  have hpos : 0 < name.utf8ByteSize := by
    apply Nat.pos_of_ne_zero
    intro hzero
    exact h.ne_empty (String.utf8ByteSize_eq_zero_iff.1 hzero)
  rw [entry_eq h]
  split
  · rename_i hempty
    rwa [hempty]
  · split <;> simp only [String.utf8ByteSize_append] <;> omega

theorem endsInSlash_entry {base : Path} {name : String} (h : IsPlain name) :
    (base.entry name).endsInSlash = false := by
  have hlist : name.toList ≠ [] := fun e => h.ne_empty (String.toList_eq_nil_iff.1 e)
  have hlast : name.toList.getLast? ≠ some '/' := fun e => h.no_slash (List.mem_of_getLast? e)
  obtain ⟨last, hsome⟩ := Option.ne_none_iff_exists'.1 (mt List.getLast?_eq_none_iff.1 hlist)
  rw [entry_eq h]
  split
  · simpa [endsInSlash] using hlast
  · split <;> simpa [endsInSlash, List.getLast?_append, List.getLast?_cons, hsome] using hlast

theorem last_entry {base : Path} {name : String} (h : IsPlain name) :
    (base.entry name).last = .name name := by
  simp [last, segments_entry h, Component.ofSegment?, h.ne_here, h.ne_parent]

/-! ## Descending by several names -/

theorem descend_nil (base : Path) : base.descend [] = base := rfl

theorem descend_cons (base : Path) (name : String) (rest : List String) :
    base.descend (name :: rest) = (base.entry name).descend rest := rfl

theorem descend_append (base : Path) (names rest : List String) :
    base.descend (names ++ rest) = (base.descend names).descend rest :=
  List.foldl_append

theorem isAbsolute_descend {base : Path} {names : List String}
    (h : ∀ name ∈ names, IsPlain name) :
    (base.descend names).isAbsolute = base.isAbsolute := by
  induction names generalizing base with
  | nil => rfl
  | cons name rest ih =>
    obtain ⟨hname, hrest⟩ := List.forall_mem_cons.1 h
    rw [descend_cons, ih hrest, isAbsolute_entry hname]

/-! ## Components -/

theorem ofSegment?_of_plain {name : String} (h : IsPlain name) :
    Component.ofSegment? name = some (.name name) := by
  simp [Component.ofSegment?, h.ne_here, h.ne_parent]

theorem components_entry {base : Path} {name : String} (h : IsPlain name) :
    (base.entry name).components = base.components ++ [.name name] := by
  have hhead : (base.segments ++ [name]).head? = some "." ↔ base.segments.head? = some "." := by
    cases base.segments with
    | nil => simp [h.ne_here]
    | cons first rest => simp
  simp only [components, isAbsolute_entry h, segments_entry h, hhead, List.filterMap_append,
    List.filterMap_cons, List.filterMap_nil, ofSegment?_of_plain h, List.append_assoc]

theorem components_descend {base : Path} {names : List String}
    (h : ∀ name ∈ names, IsPlain name) :
    (base.descend names).components = base.components ++ names.map .name := by
  induction names generalizing base with
  | nil => simp [descend_nil]
  | cons name rest ih =>
    obtain ⟨hname, hrest⟩ := List.forall_mem_cons.1 h
    rw [descend_cons, ih hrest, components_entry hname, List.append_assoc, List.singleton_append,
      List.map_cons]

theorem descend_startsWith (base : Path) {names : List String}
    (h : ∀ name ∈ names, IsPlain name) : (base.descend names).startsWith base = true := by
  simp [startsWith, components_descend h]

theorem text_ne_of_isAbsolute {p : Path} (h : p.isAbsolute = true) : p.text ≠ "" := by
  intro hempty
  simp [isAbsolute, hempty] at h

theorem isAbsolute_join {base : Path} (h : base.isAbsolute = true) (p : Path) :
    (base.join p).isAbsolute = true := by
  obtain ⟨first, rest, hlist⟩ := List.exists_cons_of_ne_nil
    (fun heq => text_ne_of_isAbsolute h (String.toList_eq_nil_iff.1 heq) : base.text.toList ≠ [])
  have hfirst : first = '/' := by simpa [isAbsolute, hlist] using h
  rw [join]
  split
  · rename_i hp
    simpa [text_ne_of_isAbsolute h] using hp
  · split <;> simp [isAbsolute, hlist, hfirst]

/-- A path starts with another one whatever was joined to it, also if that leads up. -/
theorem startsWith_join {base p : Path} (hbase : base.isAbsolute = true)
    (hp : p.isAbsolute = false) : (base.join p).startsWith base = true := by
  simp only [startsWith, components, isAbsolute_join hbase p, hbase, if_true, segments_join hp,
    List.filterMap_append, List.isPrefixOf_iff_prefix, List.prefix_append_right_inj,
    List.prefix_append]

/-- What lies below one entry of a directory starts with no other entry of it. -/
theorem descend_startsWith_entry {base : Path} {own other : String} {names : List String}
    (hown : IsPlain own) (hother : IsPlain other) (h : ∀ name ∈ names, IsPlain name) :
    ((base.entry own).descend names).startsWith (base.entry other) = true ↔ own = other := by
  simp only [startsWith, components_descend h, components_entry hown, components_entry hother,
    List.isPrefixOf_iff_prefix, List.append_assoc, List.prefix_append_right_inj,
    List.singleton_append, List.cons_prefix_cons, List.nil_prefix, and_true, Component.name.injEq]
  exact eq_comm

/-- Segments stand for no root. -/
theorem ofSegment?_ne_root (segment : String) : Component.ofSegment? segment ≠ some .root := by
  rw [Component.ofSegment?]
  split
  · simp
  · split <;> simp

/-- Only the components of a path from the root have the root among them. -/
theorem isAbsolute_of_root_mem {p : Path} (h : .root ∈ p.components) : p.isAbsolute = true := by
  rcases Bool.eq_false_or_eq_true p.isAbsolute with habsolute | hrelative
  · exact habsolute
  · simp only [components, hrelative, Bool.false_eq_true, if_false, List.mem_append,
      List.mem_filterMap] at h
    rcases h with hstart | ⟨segment, -, hsegment⟩
    · split at hstart <;> simp at hstart
    · exact absurd hsegment (ofSegment?_ne_root segment)

/-- A path from the root starts with no path that is relative and not empty. -/
theorem startsWith_relative {p top : Path} (hp : p.isAbsolute = true)
    (htop : top.isAbsolute = false) (hne : top.components ≠ []) : p.startsWith top = false := by
  rw [Bool.eq_false_iff]
  intro hstarts
  rw [startsWith, List.isPrefixOf_iff_prefix] at hstarts
  have hroot : p.components.head? = some .root := by simp [components, hp]
  have hmem : Component.root ∈ top.components := by
    obtain ⟨first, rest, hcomponents⟩ := List.exists_cons_of_ne_nil hne
    obtain ⟨after, hafter⟩ := hstarts
    rw [← hafter, hcomponents] at hroot
    simp_all
  rw [isAbsolute_of_root_mem hmem] at htop
  cases htop

theorem fileName?_entry {base : Path} {name : String} (h : IsPlain name) :
    (base.entry name).fileName? = some name := by
  simp [fileName?, components_entry h]

theorem nameChars_entry {base : Path} {name : String} (h : IsPlain name) :
    (base.entry name).nameChars = name.toList := by
  simp [nameChars, fileName?_entry h]

/-! ## The paths above -/

theorem not_mem_of_mem_splitOn {segment text : List Char} (h : segment ∈ text.splitOn '/') :
    '/' ∉ segment := by
  induction text generalizing segment with
  | nil => simp_all
  | cons c rest ih =>
    rw [List.splitOn_cons_eq_if_modifyHead] at h
    split at h
    · rcases List.mem_cons.1 h with rfl | h
      · simp
      · exact ih h
    · rename_i hc
      cases hsplit : rest.splitOn '/' with
      | nil => exact absurd hsplit (List.splitOn_ne_nil '/' rest)
      | cons first others =>
        rw [hsplit, List.modifyHead_cons] at h
        rcases List.mem_cons.1 h with rfl | h
        · have hfirst : '/' ∉ first := ih (by simp [hsplit])
          have hne : c ≠ '/' := by simpa using hc
          simp [hfirst, Ne.symm hne]
        · exact ih (by simp [hsplit, h])

theorem no_slash_of_mem_segments {p : Path} {segment : String} (h : segment ∈ p.segments) :
    '/' ∉ segment.toList := by
  obtain ⟨chars, hchars, rfl⟩ := List.mem_map.1 h
  rw [String.toList_ofList]
  exact not_mem_of_mem_splitOn (List.mem_filter.1 hchars).1

theorem ne_empty_of_mem_segments {p : Path} {segment : String} (h : segment ∈ p.segments) :
    segment ≠ "" := by
  obtain ⟨chars, hchars, rfl⟩ := List.mem_map.1 h
  have := (List.mem_filter.1 hchars).2
  intro e
  simp_all

theorem segments_intercalate {texts : List String} (h : ∀ text ∈ texts, '/' ∉ text.toList) :
    (Path.mk (String.intercalate "/" texts)).segments = texts.filter (· ≠ "") := by
  induction texts with
  | nil => simp [segments]
  | cons text rest ih =>
    obtain ⟨htext, hrest⟩ := List.forall_mem_cons.1 h
    have hone : (Path.mk text).segments = [text].filter (· ≠ "") := by
      by_cases hempty : text = ""
      · rw [hempty, segments_empty]; rfl
      · simp [segments_of_no_slash hempty htext, hempty]
    cases rest with
    | nil => simpa using hone
    | cons next others =>
      have hjoin : String.intercalate "/" (text :: next :: others)
          = text ++ "/" ++ String.intercalate "/" (next :: others) := by
        rw [← String.toList_inj]
        simp [String.toList_intercalate, List.intercalate]
      rw [hjoin, segments_append_slash, ih hrest, hone, ← List.filter_append,
        List.singleton_append]

theorem text_ofSegment? (segments : List String) :
    (segments.filterMap Component.ofSegment?).map Component.text
      = segments.filter (· ≠ ".") := by
  induction segments with
  | nil => rfl
  | cons segment rest ih =>
    by_cases hhere : segment = "."
    · simp [Component.ofSegment?, hhere, ih]
    · by_cases hparent : segment = ".."
      · simp [Component.ofSegment?, hparent, Component.text, ih]
      · simp [Component.ofSegment?, hhere, hparent, Component.text, ih]

/-- The texts of the first components, dots aside, are the first segments, dots aside. -/
theorem texts_take_components (p : Path) (n : Nat) :
    (((p.components.take n).map Component.text).filter (· ≠ "")).filter (· ≠ ".")
      = (p.segments.filter (· ≠ ".")).take
        (n - (p.components.length - (p.segments.filter (· ≠ ".")).length)) := by
  have hrest (k : Nat) :
      ((((p.segments.filterMap Component.ofSegment?).take k).map Component.text).filter
        (· ≠ "")).filter (· ≠ ".") = (p.segments.filter (· ≠ ".")).take k := by
    rw [List.map_take, text_ofSegment?]
    have hmem : ∀ segment ∈ (p.segments.filter (· ≠ ".")).take k,
        segment ≠ "" ∧ segment ≠ "." := by
      intro segment hsegment
      have := List.mem_filter.1 (List.mem_of_mem_take hsegment)
      exact ⟨ne_empty_of_mem_segments this.1, by simpa using this.2⟩
    rw [List.filter_filter]
    exact List.filter_eq_self.2 fun segment h => by simpa [and_comm] using hmem segment h
  have hlength : (p.segments.filter (· ≠ ".")).length
      = (p.segments.filterMap Component.ofSegment?).length := by
    rw [← text_ofSegment?, List.length_map]
  rw [← hrest, hlength]
  simp only [components]
  split
  · cases n <;> simp [Component.text]
  · split
    · cases n <;> simp [Component.text]
    · simp

/-! ## Texts of components -/

/-- Components that stand in a path have no slash in their texts. -/
theorem no_slash_of_mem_components {p : Path} {component : Component}
    (h : component ∈ p.components) : '/' ∉ component.text.toList := by
  simp only [components, List.mem_append, List.mem_filterMap] at h
  rcases h with hstart | ⟨segment, hsegment, hcomponent⟩
  · split at hstart
    · simp_all [Component.text]
    · split at hstart <;> simp_all [Component.text]
  · have hslash := no_slash_of_mem_segments hsegment
    simp only [Component.ofSegment?] at hcomponent
    split at hcomponent
    · cases hcomponent
    · split at hcomponent <;> cases hcomponent
      · simp [Component.text]
      · exact hslash

theorem segments_ofComponents {components : List Component}
    (h : ∀ component ∈ components, '/' ∉ component.text.toList) :
    (ofComponents components).segments = (components.map Component.text).filter (· ≠ "") := by
  by_cases hroot : components = [.root]
  · rw [hroot]
    have := segments_slash_end ""
    simpa [ofComponents, Component.text, segments_empty] using this
  · rw [ofComponents, segments_intercalate (by simpa using h)]
    simpa using hroot

theorem isAbsolute_root (rest : List Component) :
    (ofComponents (.root :: rest)).isAbsolute = true := by
  cases rest with
  | nil => simp [ofComponents, isAbsolute]
  | cons next others =>
    simp [ofComponents, isAbsolute, String.toList_intercalate, List.intercalate, Component.text]

/-- Only a component that is the root has an empty text. -/
theorem isAbsolute_of_text {component : Component} (rest : List Component)
    (hne : component.text ≠ "") (hslash : '/' ∉ component.text.toList) :
    (ofComponents (component :: rest)).isAbsolute = false := by
  obtain ⟨first, others, hlist⟩ := List.exists_cons_of_ne_nil
    (fun e => hne (String.toList_eq_nil_iff.1 e) : component.text.toList ≠ [])
  have hfirst : first ≠ '/' := by
    rintro rfl
    exact hslash (by simp [hlist])
  have hroot : component ≠ .root := by
    rintro rfl
    exact hne rfl
  cases rest with
  | nil =>
    rw [ofComponents]
    · simpa [isAbsolute, hlist] using hfirst
    · simpa using hroot
  | cons next more =>
    simpa [ofComponents, isAbsolute, String.toList_intercalate, List.intercalate, hlist]
      using hfirst

theorem isAbsolute_take (p : Path) {n : Nat}
    (hne : (ofComponents (p.components.take n)).text ≠ "") :
    (ofComponents (p.components.take n)).isAbsolute = p.isAbsolute := by
  cases htake : p.components.take n with
  | nil =>
    rw [htake] at hne
    simp [ofComponents] at hne
  | cons first rest =>
    have hmem : first ∈ p.components := List.mem_of_mem_take (i := n) (by simp [htake])
    have hhead : p.components.head? = some first := by
      cases n <;> cases hc : p.components <;> simp_all
    have hslash := no_slash_of_mem_components hmem
    by_cases habs : p.isAbsolute = true
    · have : first = .root := by simpa [components, habs, eq_comm] using hhead
      rw [this, isAbsolute_root, habs]
    · have hroot : first.text ≠ "" := by
        simp only [components, habs, if_false, Bool.false_eq_true] at hmem
        simp only [List.mem_append, List.mem_filterMap] at hmem
        rcases hmem with hstart | ⟨segment, hsegment, hcomponent⟩
        · split at hstart <;> simp_all [Component.text]
        · have hempty := ne_empty_of_mem_segments hsegment
          simp only [Component.ofSegment?] at hcomponent
          split at hcomponent
          · cases hcomponent
          · split at hcomponent <;> cases hcomponent
            · simp [Component.text]
            · exact hempty
      rw [isAbsolute_of_text rest hroot hslash, Bool.eq_false_iff.2 habs]

/-- A path above another one starts at the same place and has the first of its segments. -/
theorem of_mem_upwards {p q : Path} (h : q ∈ p.upwards) (hne : q.text ≠ "") :
    q.isAbsolute = p.isAbsolute ∧
      ∃ k, q.segments.filter (· ≠ ".") = (p.segments.filter (· ≠ ".")).take k := by
  rcases List.mem_cons.1 h with rfl | h
  · exact ⟨rfl, _, List.take_length.symm⟩
  · obtain ⟨n, -, rfl⟩ := List.mem_map.1 h
    have hslash : ∀ component ∈ p.components.take n, '/' ∉ component.text.toList :=
      fun component hc => no_slash_of_mem_components (List.mem_of_mem_take hc)
    exact ⟨isAbsolute_take p hne, _,
      (congrArg _ (segments_ofComponents hslash)).trans (texts_take_components p n)⟩

end Path
end Exemplar

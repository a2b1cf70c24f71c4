import Typeset.Proofs.FileSystem.Lexical
import Typeset.Texmf

/-!
# Where the tree of inputs is

Whether there is a tree, and where, is looked up by the absolute form of the share directory without two
dots; only the share directory itself is asked for by the name that was given. The paths that are found
are absolute and mean the same from everywhere. They are those below the share directory exactly if both
names of the tree lead to one directory, as they do when no two dots are taken behind a link.
-/

namespace Typeset.Texmf
open Text FileSystem

/-- The names, below a share directory, of the tree and of its three parts. -/
def parts : List (List String) :=
  [["texmf"], ["texmf", "tex", "latex"], ["texmf", "bibtex", "bib"], ["texmf", "bibtex", "bst"]]

/-- What is below a share directory, by the name that was given. -/
def within (share : String) (names : List String) : String := share ++ "/" ++ join '/' names

/-- What is below the absolute form of a share directory. -/
def collapsed (h : Host) (share : String) (names : List String) : PosixPath :=
  let d := h.absolute (.ofText share)
  { d with names := d.names ++ names }

/-- A path is absolute, and names from every directory what a name does from the working directory. -/
def StandsFor (h : Host) (p : PlatformPath) (name : String) : Prop :=
  p.toText.front = '/' ∧ ∀ dir loc,
    h.files.locate dir p.toText = .ok loc ↔ h.files.locate h.workingDirectory name = .ok loc

/-- A tree is found exactly where the share directory has one, and it is that one. -/
structure FindsOwn (h : Host) (share : String) : Prop where
  found_iff : (locate h .posix (some share)).isSome = true ↔
    share ≠ "" ∧ h.isDirectory share = true ∧ h.isDirectory (within share ["texmf"]) = true
  tree : ∀ t, locate h .posix (some share) = some t →
    ∃ tree, t = below tree ∧ StandsFor h tree (within share ["texmf"])
  places : ∀ t, locate h .posix (some share) = some t →
    StandsFor h t.latex (within share ["texmf", "tex", "latex"]) ∧
    StandsFor h t.bibliographies (within share ["texmf", "bibtex", "bib"]) ∧
    StandsFor h t.styles (within share ["texmf", "bibtex", "bst"])

/-- Both names of what is below a share directory lead to one place, or neither leads to any. -/
def SamePlace (h : Host) (share : String) (names : List String) : Prop :=
  ∀ loc, h.files.locate h.workingDirectory (within share names) = .ok loc ↔
    h.files.locate h.workingDirectory (collapsed h share names).toText = .ok loc

/-- The two names of the tree lead to one directory, or neither leads to any. -/
def SameTree (h : Host) (share : String) : Prop :=
  ∀ loc, h.files.hasDirectory loc = true →
    (h.files.locate h.workingDirectory (within share ["texmf"]) = .ok loc ↔
      h.files.locate h.workingDirectory (collapsed h share ["texmf"]).toText = .ok loc)

/-- No name of the tree or of a part of it is beyond the limits of the system. -/
def FitsSystem (h : Host) (share : String) : Prop :=
  ∀ names ∈ parts, h.files.Fits h.workingDirectory (within share names) ∧
    h.files.Fits h.workingDirectory (collapsed h share names).toText

section Names
variable {share : String} {names : List String}

theorem texmf_mem_parts : ["texmf"] ∈ parts := by decide

theorem isEntryName_of_mem_parts (hm : names ∈ parts) : ∀ n ∈ names, IsEntryName n := by
  have hall : ∀ names ∈ parts, ∀ n ∈ names, n ≠ "" ∧ n ≠ "." ∧ n ≠ ".." ∧ '/' ∉ n.toList := by
    decide
  intro n hn
  obtain ⟨he, hd, ha, hs⟩ := hall names hm n hn
  exact ⟨he, hd, ha, hs⟩

theorem exists_of_mem_parts (hm : names ∈ parts) : ∃ rest, names = "texmf" :: rest := by
  have hall : ∀ names ∈ parts, names.head? = some "texmf" := by decide
  exact List.head?_eq_some_iff.1 (hall names hm)

theorem front_within (h : share ≠ "") : (within share names).front = '/' ↔ share.front = '/' := by
  obtain ⟨c, cs, hc⟩ := List.exists_cons_of_ne_nil fun he => h (String.toList_eq_nil_iff.1 he)
  rw [front_eq_slash_iff, front_eq_slash_iff, within, String.toList_append, String.toList_append, hc]
  rfl

theorem split_within (hn : ∀ n ∈ names, IsEntryName n) (hne : names ≠ []) :
    split '/' (within share names) = split '/' share ++ names := by
  have happ : split '/' (within share names) = split '/' share ++ split '/' (join '/' names) := by
    simp [split, within, splitOn_append]
  rw [happ, split_join hne fun n h => (hn n h).slash_notMem]

end Names

section Lookup
variable {h : Host} {share : String} {names : List String} {loc : Location}

theorem isAbsolute_collapsed : (collapsed h share names).isAbsolute = true := by
  have habs : (h.absolute (.ofText share)).isAbsolute = true :=
    PosixPath.isAbsolute_absolute rfl (.ofText share)
  exact habs

theorem treeBelow_eq_collapsed : treeBelow h share = collapsed h share ["texmf"] := rfl

theorem locate_within_iff (hfits : FitsSystem h share) (hm : names ∈ parts) (hs : share ≠ "") :
    h.files.locate h.workingDirectory (within share names) = .ok loc ↔
      h.files.Reaches (origin h.workingDirectory share) (split '/' share ++ names) loc := by
  obtain ⟨rest, hrest⟩ := exists_of_mem_parts hm
  have hne : names ≠ [] := by simp [hrest]
  rw [(hfits names hm).1.locate_iff, split_within (isEntryName_of_mem_parts hm) hne, origin, origin]
  simp only [front_within hs]

variable (hcwd : h.files.IsReal h.workingDirectory)
include hcwd

theorem isEntryName_of_mem_collapsed (hn : ∀ n ∈ names, IsEntryName n) :
    ∀ n ∈ (collapsed h share names).names, IsEntryName n := by
  have habsolute : ∀ n ∈ (h.absolute (.ofText share)).names, IsEntryName n :=
    isEntryName_of_mem_absolute (fun n hn => .inr (hcwd.names n hn)) rfl
      fun _ => isStep_of_mem_ofText
  intro n hm
  rcases List.mem_append.1 hm with hm | hm
  · exact habsolute n hm
  · exact hn n hm

theorem front_collapsed (hn : ∀ n ∈ names, IsEntryName n) :
    (collapsed h share names).toText.front = '/' := by
  rw [← PosixPath.isAbsolute_ofText,
    PosixPath.ofText_toText (isEntryName_of_mem_collapsed hcwd hn) isAbsolute_collapsed]
  exact isAbsolute_collapsed

theorem locate_eq_some_iff {t : Texmf} : locate h .posix (some share) = some t ↔
    share ≠ "" ∧ h.isDirectory share = true ∧
      h.isDirectory (collapsed h share ["texmf"]).toText = true ∧
      t = below (.posix (collapsed h share ["texmf"])) := by
  have hread : PlatformPath.ofText .posix (collapsed h share ["texmf"]).toText =
      .posix (collapsed h share ["texmf"]) := by
    have hnames : ∀ n ∈ (collapsed h share ["texmf"]).names, IsEntryName n :=
      isEntryName_of_mem_collapsed hcwd (isEntryName_of_mem_parts texmf_mem_parts)
    rw [PlatformPath.ofText, PosixPath.ofText_toText hnames isAbsolute_collapsed]
  rw [locate, treeBelow_eq_collapsed]
  simp only [hread]
  by_cases hs : share ≠ "" ∧ h.isDirectory share = true
  · rw [if_pos hs]
    split
    next ht => simp [hs, ht, eq_comm]
    next ht => simp [hs, ht]
  · rw [if_neg hs]
    constructor
    · intro hnone
      cases hnone
    · rintro ⟨he, hd, -⟩
      exact absurd ⟨he, hd⟩ hs

theorem SamePlace.standsFor (hn : ∀ n ∈ names, IsEntryName n) (hsame : SamePlace h share names) :
    StandsFor h (.posix (collapsed h share names)) (within share names) := by
  have hfront : (collapsed h share names).toText.front = '/' := front_collapsed hcwd hn
  refine ⟨hfront, ?_⟩
  intro dir loc
  rw [hsame loc]
  show h.files.locate dir (collapsed h share names).toText = .ok loc ↔ _
  rw [locate_of_front hfront dir]

variable (hfits : FitsSystem h share) (hm : names ∈ parts)
include hfits hm

theorem locate_collapsed_iff :
    h.files.locate h.workingDirectory (collapsed h share names).toText = .ok loc ↔
      h.files.Reaches [] ((h.absolute (.ofText share)).names ++ names) loc := by
  obtain ⟨rest, hrest⟩ := exists_of_mem_parts hm
  have hn := isEntryName_of_mem_parts hm
  have hne : (collapsed h share names).names ≠ [] := by simp [collapsed, hrest]
  rw [(hfits names hm).2.locate_iff, origin, if_pos (front_collapsed hcwd hn),
    reaches_split_toText isAbsolute_collapsed (isEntryName_of_mem_collapsed hcwd hn) hne]
  rfl

theorem samePlace_of_reaches (hs : share ≠ "") (hsame : ∀ loc,
      h.files.Reaches (origin h.workingDirectory share) (split '/' share ++ names) loc ↔
        h.files.Reaches [] ((h.absolute (.ofText share)).names ++ names) loc) :
    SamePlace h share names := by
  intro loc
  rw [locate_within_iff hfits hm hs, hsame, ← locate_collapsed_iff hcwd hfits hm]

end Lookup

theorem below_collapsed (h : Host) (share : String) :
    below (.posix (collapsed h share ["texmf"])) =
      ⟨.posix (collapsed h share ["texmf", "tex", "latex"]),
        .posix (collapsed h share ["texmf", "bibtex", "bib"]),
        .posix (collapsed h share ["texmf", "bibtex", "bst"])⟩ := by
  simp [below, collapsed, PlatformPath.child, PosixPath.child]

theorem below_injective {p q : PlatformPath} (h : below p = below q) : p = q := by
  have hlatex : (p.child "tex").child "latex" = (q.child "tex").child "latex" :=
    congrArg Texmf.latex h
  rcases p with ⟨_, _⟩ | ⟨_, _, _⟩ <;> rcases q with ⟨_, _⟩ | ⟨_, _, _⟩ <;>
    simp_all [PlatformPath.child, PosixPath.child, WindowsPath.child]

theorem SameTree.isDirectory_iff {h : Host} {share : String} (hsame : SameTree h share) :
    h.isDirectory (within share ["texmf"]) = true ↔
      h.isDirectory (collapsed h share ["texmf"]).toText = true := by
  rw [Host.isDirectory, Host.isDirectory, FileSystem.isDirectory_iff, FileSystem.isDirectory_iff]
  exact exists_congr fun dir => and_congr_left (hsame dir)

section Finding
variable {h : Host} {share : String} (hcwd : h.files.IsReal h.workingDirectory)
include hcwd

theorem names_absolute_of_locate {t : Texmf} (ht : locate h .posix (some share) = some t) :
    ∀ p ∈ [t.latex, t.bibliographies, t.styles], p.toText.front = '/' ∧
      ∀ dir dir', h.files.locate dir p.toText = h.files.locate dir' p.toText := by
  obtain ⟨-, -, -, rfl⟩ := (locate_eq_some_iff hcwd).1 ht
  intro p hp
  obtain ⟨names, hm, rfl⟩ : ∃ names ∈ parts, p = .posix (collapsed h share names) := by
    rw [below_collapsed] at hp
    simp only [List.mem_cons, List.not_mem_nil, or_false] at hp
    rcases hp with rfl | rfl | rfl
    · exact ⟨_, by decide, rfl⟩
    · exact ⟨_, by decide, rfl⟩
    · exact ⟨_, by decide, rfl⟩
  have hfront : (collapsed h share names).toText.front = '/' :=
    front_collapsed hcwd (isEntryName_of_mem_parts hm)
  exact ⟨hfront, fun dir _ => locate_of_front hfront dir⟩

theorem samePlace_of_findsOwn (hf : FindsOwn h share)
    (ht : (locate h .posix (some share)).isSome = true) : ∀ names ∈ parts, SamePlace h share names := by
  obtain ⟨t, ht⟩ := Option.isSome_iff_exists.1 ht
  obtain ⟨-, -, -, hbelow⟩ := (locate_eq_some_iff hcwd).1 ht
  obtain ⟨tree, hown, htree⟩ := hf.tree t ht
  obtain ⟨hlatex, hbibliographies, hstyles⟩ := hf.places t ht
  obtain rfl := below_injective (hown.symm.trans hbelow)
  rw [hbelow, below_collapsed] at hlatex hbibliographies hstyles
  have hsame {names : List String}
      (hstands : StandsFor h (.posix (collapsed h share names)) (within share names)) :
      SamePlace h share names := fun loc => (hstands.2 h.workingDirectory loc).symm
  intro names hm
  simp only [parts, List.mem_cons, List.not_mem_nil, or_false] at hm
  rcases hm with rfl | rfl | rfl | rfl
  · exact hsame htree
  · exact hsame hlatex
  · exact hsame hbibliographies
  · exact hsame hstyles

theorem sameTree_of_findsOwn (hf : FindsOwn h share) (hs : share ≠ "")
    (hd : h.isDirectory share = true) : SameTree h share := by
  -- if one of the two names leads to a directory, a tree is found, and it is the one below the share
  intro dir hdir
  constructor
  · intro hwithin
    have htree := isDirectory_iff.2 ⟨dir, hwithin, hdir⟩
    exact (samePlace_of_findsOwn hcwd hf (hf.found_iff.2 ⟨hs, hd, htree⟩) _ texmf_mem_parts dir).1 hwithin
  · intro hcollapsed
    have htree := isDirectory_iff.2 ⟨dir, hcollapsed, hdir⟩
    have hsome := Option.isSome_iff_exists.2 ⟨_, (locate_eq_some_iff hcwd).2 ⟨hs, hd, htree, rfl⟩⟩
    exact (samePlace_of_findsOwn hcwd hf hsome _ texmf_mem_parts dir).2 hcollapsed

theorem findsOwn_of_samePlace (hsame : share ≠ "" → h.isDirectory share = true →
      SameTree h share ∧ (h.isDirectory (within share ["texmf"]) = true →
        ∀ names ∈ parts, SamePlace h share names)) : FindsOwn h share := by
  have hstands {t : Texmf} (ht : locate h .posix (some share) = some t) (names : List String)
      (hm : names ∈ parts) :
      StandsFor h (.posix (collapsed h share names)) (within share names) := by
    obtain ⟨hs, hd, htree, -⟩ := (locate_eq_some_iff hcwd).1 ht
    obtain ⟨hsame, hplaces⟩ := hsame hs hd
    have hplace := hplaces (hsame.isDirectory_iff.2 htree) names hm
    exact hplace.standsFor hcwd (isEntryName_of_mem_parts hm)
  refine ⟨?_, ?_, ?_⟩
  · rw [Option.isSome_iff_exists]
    constructor
    · rintro ⟨t, ht⟩
      obtain ⟨hs, hd, htree, -⟩ := (locate_eq_some_iff hcwd).1 ht
      exact ⟨hs, hd, (hsame hs hd).1.isDirectory_iff.2 htree⟩
    · rintro ⟨hs, hd, htree⟩
      have hfound := (hsame hs hd).1.isDirectory_iff.1 htree
      exact ⟨_, (locate_eq_some_iff hcwd).2 ⟨hs, hd, hfound, rfl⟩⟩
  · intro t ht
    have htexmf := hstands ht ["texmf"] texmf_mem_parts
    obtain ⟨-, -, -, rfl⟩ := (locate_eq_some_iff hcwd).1 ht
    exact ⟨_, rfl, htexmf⟩
  · intro t ht
    have hlatex := hstands ht ["texmf", "tex", "latex"] (by decide)
    have hbibliographies := hstands ht ["texmf", "bibtex", "bib"] (by decide)
    have hstyles := hstands ht ["texmf", "bibtex", "bst"] (by decide)
    obtain ⟨-, -, -, rfl⟩ := (locate_eq_some_iff hcwd).1 ht
    rw [below_collapsed]
    exact ⟨hlatex, hbibliographies, hstyles⟩

theorem findsOwn_iff_samePlace : FindsOwn h share ↔
    (share ≠ "" → h.isDirectory share = true → SameTree h share ∧
      (h.isDirectory (within share ["texmf"]) = true → ∀ names ∈ parts, SamePlace h share names)) := by
  constructor
  · intro hf hs hd
    refine ⟨sameTree_of_findsOwn hcwd hf hs hd, ?_⟩
    intro htree
    exact samePlace_of_findsOwn hcwd hf (hf.found_iff.2 ⟨hs, hd, htree⟩)
  · exact findsOwn_of_samePlace hcwd

section Limits
variable (hfits : FitsSystem h share)
include hfits

/-- All that is found is below one directory: if both names of the tree lead there, so do those of its
parts. -/
theorem SameTree.samePlace (hsame : SameTree h share) (hs : share ≠ "")
    (htree : h.isDirectory (within share ["texmf"]) = true) :
    ∀ names ∈ parts, SamePlace h share names := by
  intro names hm
  obtain ⟨rest, rfl⟩ := exists_of_mem_parts hm
  obtain ⟨dir, hwithin, hdir⟩ := FileSystem.isDirectory_iff.1 htree
  have hcollapsed := (hsame dir hdir).1 hwithin
  rw [locate_within_iff hfits texmf_mem_parts hs] at hwithin
  rw [locate_collapsed_iff hcwd hfits texmf_mem_parts] at hcollapsed
  apply samePlace_of_reaches hcwd hfits hm hs
  intro loc
  rw [List.append_cons, List.append_cons (h.absolute (.ofText share)).names,
    Reaches.append_iff_of_reaches hwithin, Reaches.append_iff_of_reaches hcollapsed]

theorem sameTree_of_straight (hstraight : h.files.Straight h.workingDirectory share)
    (hs : share ≠ "") : SameTree h share := by
  have hplace : SamePlace h share ["texmf"] := by
    apply samePlace_of_reaches hcwd hfits texmf_mem_parts hs
    intro loc
    exact (hstraight.reaches_iff hcwd).symm
  exact fun dir _ => hplace dir

theorem findsOwn_iff_sameTree : FindsOwn h share ↔
    (share ≠ "" → h.isDirectory share = true → SameTree h share) := by
  rw [findsOwn_iff_samePlace hcwd]
  constructor
  · exact fun hsame hs hd => (hsame hs hd).1
  · exact fun hsame hs hd => ⟨hsame hs hd, (hsame hs hd).samePlace hcwd hfits hs⟩

end Limits

/-- The paths that are found are absolute and mean the same from everywhere. They are those of the share
directory, and are found whenever it has a tree, exactly if both names of the tree lead to one
directory and both names of each part to one place. Within the limits of the system it is enough that
those of the tree do, and they do for every share directory that takes no two dots behind a link. -/
theorem finds_own_iff :
    (∀ t, locate h .posix (some share) = some t →
      ∀ p ∈ [t.latex, t.bibliographies, t.styles], p.toText.front = '/' ∧
        ∀ dir dir', h.files.locate dir p.toText = h.files.locate dir' p.toText) ∧
    (FindsOwn h share ↔ (share ≠ "" → h.isDirectory share = true → SameTree h share ∧
      (h.isDirectory (within share ["texmf"]) = true → ∀ names ∈ parts, SamePlace h share names))) ∧
    (FitsSystem h share →
      (FindsOwn h share ↔ (share ≠ "" → h.isDirectory share = true → SameTree h share)) ∧
      (h.files.Straight h.workingDirectory share → FindsOwn h share)) := by
  refine ⟨fun t => names_absolute_of_locate hcwd, findsOwn_iff_samePlace hcwd, ?_⟩
  intro hfits
  refine ⟨findsOwn_iff_sameTree hcwd hfits, ?_⟩
  intro hstraight
  rw [findsOwn_iff_sameTree hcwd hfits]
  intro hs _
  exact sameTree_of_straight hcwd hfits hstraight hs

end Finding

section Linked

/-- A host with two share directories, one of which has a tree, and a link to a directory beside the
other one. -/
def linked : Host where
  files :=
    ⟨[(["far"], .directory), (["far", "inner"], .directory), (["far", "share"], .directory),
      (["link"], .link "far/inner"), (["share"], .directory), (["share", "texmf"], .directory),
      (["share", "texmf", "tex"], .directory), (["share", "texmf", "tex", "latex"], .directory),
      (["share", "texmf", "bibtex"], .directory), (["share", "texmf", "bibtex", "bib"], .directory),
      (["share", "texmf", "bibtex", "bst"], .directory)]⟩
  workingDirectory := []
  environment := .empty
  accounts := []
  scripts := ⟨.root, ["scripts"]⟩

theorem leads_share : linked.files.Leads 0 [] ["share"] ["share"] := by
  have hshare : linked.files.Leads 0 [] ["share"] ([] ++ ["share"]) := by
    apply leads_of_directories <;> decide
  exact hshare

theorem leads_far : linked.files.Leads 0 [] ["far", "..", "share"] ["share"] :=
  .enter rfl rfl (by decide) (by decide) (e := .directory) rfl (by rintro _ ⟨⟩) (.up rfl leads_share)

theorem leads_parts {names : List String} (hm : names ∈ parts) :
    linked.files.Leads 0 ["share"] names (["share"] ++ names) := by
  have hnames : ∀ names ∈ parts, ∀ n ∈ names,
      isHere n = false ∧ n ≠ ".." ∧ n.utf8ByteSize ≤ nameLimit := by decide
  have hall : ∀ names ∈ parts, ∀ k ≤ names.length,
      linked.files.hasDirectory (["share"] ++ names.take k) = true := by decide
  exact leads_of_directories (hnames names hm) (hall names hm)

theorem locate_within_far {names : List String} (hm : names ∈ parts) :
    linked.files.locate [] (within "far/../share" names) = .ok (["share"] ++ names) := by
  have hall : ∀ names ∈ parts, let path := within "far/../share" names
      '\x00' ∉ path.toList ∧ path ≠ "" ∧ path.utf8ByteSize ≤ pathLimit ∧ path.front ≠ '/' ∧
        split '/' path = ["far", "..", "share"] ++ names := by decide
  obtain ⟨hz, he, hl, hf, hs⟩ := hall names hm
  refine locate_eq_ok_iff.2 ⟨hz, he, hl, ?_⟩
  rw [if_neg hf, hs]
  exact (leads_far.append (leads_parts hm)).mono (by decide)

theorem locate_collapsed_far {names : List String} (hm : names ∈ parts) :
    linked.files.locate [] (collapsed linked "far/../share" names).toText =
      .ok (["share"] ++ names) := by
  have hall : ∀ names ∈ parts, let path := (collapsed linked "far/../share" names).toText
      '\x00' ∉ path.toList ∧ path ≠ "" ∧ path.utf8ByteSize ≤ pathLimit ∧ path.front = '/' ∧
        split '/' path = "" :: ["share"] ++ names := by decide
  obtain ⟨hz, he, hl, hf, hs⟩ := hall names hm
  refine locate_eq_ok_iff.2 ⟨hz, he, hl, ?_⟩
  rw [if_pos hf, hs]
  exact .stay rfl rfl ((leads_share.append (leads_parts hm)).mono (by decide))

/-- Two dots that take back a directory mean the same on paper and on the way. -/
theorem finds_own_linked :
    linked.files.IsReal linked.workingDirectory ∧ FitsSystem linked "far/../share" ∧
      FindsOwn linked "far/../share" ∧
      (locate linked .posix (some "far/../share")).isSome = true := by
  have hcwd : linked.files.IsReal linked.workingDirectory := .nil linked.files
  have hfits : FitsSystem linked "far/../share" := fun names hm =>
    ⟨fits_of_locate (locate_within_far hm), fits_of_locate (locate_collapsed_far hm)⟩
  have hstraight : linked.files.Straight linked.workingDirectory "far/../share" :=
    ⟨["far", "..", "share"], [], ["share"], by decide, leads_far, by decide⟩
  have hown := ((finds_own_iff hcwd).2.2 hfits).2 hstraight
  refine ⟨hcwd, hfits, hown, hown.found_iff.2 ⟨by decide, ?_, ?_⟩⟩
  · have hlocate : linked.files.locate [] "far/../share" = .ok ["share"] :=
      locate_eq_ok_iff.2 ⟨by decide, by decide, by decide, leads_far.mono (by decide)⟩
    exact isDirectory_iff.2 ⟨["share"], hlocate, rfl⟩
  · exact isDirectory_iff.2 ⟨["share", "texmf"], locate_within_far (by decide), rfl⟩

theorem leads_link : linked.files.Leads 1 [] ["link", "..", "share"] ["far", "share"] := by
  have hinner : linked.files.Leads 0 [] ["far", "inner"] ["far", "inner"] := by
    have hinner : linked.files.Leads 0 [] ["far", "inner"] ([] ++ ["far", "inner"]) := by
      apply leads_of_directories <;> decide
    exact hinner
  have hshare : linked.files.Leads 0 ["far", "inner"] ["..", "share"] ["far", "share"] := by
    have hbeside : linked.files.Leads 0 ["far"] ["share"] (["far"] ++ ["share"]) := by
      apply leads_of_directories <;> decide
    exact .up rfl hbeside
  have htarget : split '/' "far/inner" ++ ["..", "share"] = ["far", "inner"] ++ ["..", "share"] := by
    decide
  have hentry : linked.files.entry? ["link"] = some (.link "far/inner") := rfl
  apply Leads.follow rfl rfl (by decide) (by decide) hentry (by decide)
  rw [ite_self, htarget]
  exact hinner.append hshare

/-- Behind a link the two dots of a share directory are taken back from its name, and the tree of another
share directory is found, where that one has none. -/
theorem other_tree_linked :
    linked.isDirectory "link/../share" = true ∧
      linked.isDirectory (within "link/../share" ["texmf"]) = false ∧
      locate linked .posix (some "link/../share") =
        some (below (.posix ⟨.root, ["share", "texmf"]⟩)) ∧
      ¬FindsOwn linked "link/../share" := by
  have hshare : linked.isDirectory "link/../share" = true := by
    have hlocate : linked.files.locate [] "link/../share" = .ok ["far", "share"] :=
      locate_eq_ok_iff.2 ⟨by decide, by decide, by decide, leads_link.mono (by decide)⟩
    exact isDirectory_iff.2 ⟨_, hlocate, rfl⟩
  have hnone : linked.isDirectory (within "link/../share" ["texmf"]) = false := by
    rw [Bool.eq_false_iff, Ne, Host.isDirectory, isDirectory_iff]
    rintro ⟨loc, hlocate, -⟩
    have hreach := reaches_of_locate hlocate
    have hsplit : split '/' (within "link/../share" ["texmf"]) =
        ["link", "..", "share"] ++ ["texmf"] := by decide
    rw [hsplit] at hreach
    have hlink : linked.files.Reaches (origin [] (within "link/../share" ["texmf"]))
        ["link", "..", "share"] ["far", "share"] := ⟨1, leads_link⟩
    obtain ⟨k, htexmf⟩ := (Reaches.append_iff_of_reaches hlink).1 hreach
    obtain ⟨e, he⟩ := htexmf.exists_entry rfl (by decide)
    cases he
  have hfound : locate linked .posix (some "link/../share") =
      some (below (.posix ⟨.root, ["share", "texmf"]⟩)) := by
    have htree : linked.isDirectory (collapsed linked "link/../share" ["texmf"]).toText = true := by
      have hsame : collapsed linked "link/../share" ["texmf"] =
          collapsed linked "far/../share" ["texmf"] := by decide
      rw [hsame]
      exact isDirectory_iff.2 ⟨["share", "texmf"], locate_collapsed_far (by decide), rfl⟩
    have hcollapsed : collapsed linked "link/../share" ["texmf"] = ⟨.root, ["share", "texmf"]⟩ := by
      decide
    rw [← hcollapsed]
    exact (locate_eq_some_iff (.nil linked.files)).2 ⟨by decide, hshare, htree, rfl⟩
  refine ⟨hshare, hnone, hfound, ?_⟩
  intro hown
  have hsome := Option.isSome_iff_exists.2 ⟨_, hfound⟩
  have htree := (hown.found_iff.1 hsome).2.2
  rw [hnone] at htree
  cases htree

end Linked

end Typeset.Texmf

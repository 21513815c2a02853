/-
  Writing to a disk.

  A file that was written is what its path leads to: the node that is put at
  the end of the path is in the way of none of the names before it.  Where
  writing fails, the path leads to no file, even though some of the directories
  above it may have been made.

  * `look_of_write`: after a write that succeeds the path leads to the file;
  * `look_of_write_error`: after a write that fails it leads to none;
  * `isOfDisk_of_write`: a write fails for nothing but what is in its way.
-/
import SpanQuest.Storage.Disk

namespace SpanQuest

namespace Disk

variable {d made : Disk} {p : Path} {place here : Place} {node : Node} {names : List String}

/-! ## Nodes that are put -/

theorem nodeAt_put_of_ne (h : here ≠ place) : (d.put place node).nodeAt here = d.nodeAt here := by
  have hbeq : (here == place) = false := by simpa using h
  simp only [nodeAt, put, List.lookup_cons, hbeq]
  induction d.nodes with
  | nil => rfl
  | cons q rest ih =>
    by_cases hq : q.1 = place
    · have hne : (here == q.1) = false := by simpa [hq] using h
      rw [List.filter_cons_of_neg (by simp [hq]), ih, List.lookup_cons, hne]
    · rw [List.filter_cons_of_pos (by simpa using hq), List.lookup_cons, List.lookup_cons, ih]

theorem content_put_directory (h : here ≠ place) (hdir : d.content here = some .directory) :
    (d.put place node).content here = some .directory := by
  unfold content at hdir ⊢
  rw [nodeAt_put_of_ne h]
  split at hdir
  · exact hdir
  · next hnone =>
    split at hdir
    · next habove =>
      refine if_pos ?_
      simp only [Bool.or_eq_true, List.any_eq_true, put, List.mem_cons, List.mem_filter] at habove ⊢
      rcases habove with habove | ⟨q, hq, hbelow⟩
      · exact Or.inl habove
      · by_cases hplace : q.1 = place
        · exact Or.inr ⟨(place, node), Or.inl rfl, hplace ▸ hbelow⟩
        · exact Or.inr ⟨q, Or.inr ⟨hq, by simpa using hplace⟩, hbelow⟩
    · cases hdir

/-! ## Walking -/

theorem content_of_walk {found : Option Node} (h : d.walk here names = .ok (place, found)) :
    found = d.content place := by
  induction names generalizing here with
  | nil =>
    cases h
    rfl
  | cons name names ih =>
    rw [walk] at h
    split at h
    · cases h
    · exact ih h

theorem content_of_follow {name : String} {next : Place} {found : Option Node}
    (h : d.follow here name = .ok (next, found)) : d.content here = some .directory := by
  unfold follow at h
  split at h
  · cases h
  · cases h
  · next hdir => exact hdir

theorem walk_append (here : Place) (front back : List String) :
    d.walk here (front ++ back) = match d.walk here front with
      | .error o => .error o
      | .ok (place, _) => d.walk place back := by
  induction front generalizing here with
  | nil => rfl
  | cons name front ih =>
    rw [List.cons_append, walk, walk]
    split
    · rfl
    · exact ih _

/-- A node that is put at the end of a walk is in the way of none of its names,
    unless that place was a directory. -/
theorem walk_put {old : Option Node} (h : d.walk here names = .ok (place, old))
    (hold : old ≠ some .directory) : (d.put place node).walk here names = .ok (place, some node) := by
  rw [content_of_walk h] at hold
  induction names generalizing here with
  | nil =>
    cases h
    rw [walk, content_put_self]
  | cons name names ih =>
    rw [walk] at h ⊢
    split at h
    · cases h
    · next next found hfollow =>
      have hdir := content_of_follow hfollow
      have hne : here ≠ place := by
        rintro rfl
        exact hold hdir
      have hstep : (d.put place node).follow here name =
          .ok (next, (d.put place node).content next) := by
        unfold follow at hfollow ⊢
        rw [content_put_directory hne hdir]
        rw [hdir] at hfollow
        dsimp only at hfollow ⊢
        split at hfollow
        · cases hfollow
        · next hlimit =>
          cases hfollow
          rw [if_neg hlimit]
      rw [hstep]
      exact ih h

theorem find_put {old : Option Node} (h : d.find p = .ok (place, old))
    (hold : old ≠ some .directory) : (d.put place node).find p = .ok (place, some node) := by
  unfold find at h ⊢
  split at h
  · cases h
  · next hlimit =>
    rw [if_neg hlimit]
    exact walk_put h hold

end Disk

/-! ## Directories above -/

namespace Path

/-- The text of a path goes on where that of its directory ends, unless the
    directory is the one where paths begin. -/
theorem text_parent {p : Path} (h : p.names ≠ []) :
    (∃ s, p.text = p.parent.text ++ s) ∨ p.parent.text = "." := by
  obtain ⟨root, names⟩ := p
  obtain ⟨front, last, rfl⟩ : ∃ front last, names = front ++ [last] :=
    ⟨_, _, (List.dropLast_concat_getLast h).symm⟩
  cases front with
  | nil => cases root <;> simp [text, parent]
  | cons name front =>
    have hjoin : "/".intercalate (name :: front ++ [last]) =
        "/".intercalate (name :: front) ++ "/" ++ last := by
      rw [String.intercalate_append_of_ne_nil (by simp) (by simp), String.intercalate_singleton]
    have hdrop : (name :: front ++ [last]).dropLast = name :: front := List.dropLast_concat
    refine Or.inl ⟨"/" ++ last, ?_⟩
    cases root <;> simp only [text, parent, hdrop, hjoin] <;> simp [String.append_assoc]

theorem hasNul_parent {p : Path} (hnames : p.names ≠ []) (h : hasNul p.text = false) :
    hasNul p.parent.text = false := by
  rcases text_parent hnames with ⟨s, hs⟩ | hs
  · rw [hs] at h
    simp only [hasNul, String.toList_append, List.any_append, Bool.or_eq_false_iff] at h
    exact h.1
  · rw [hs]
    rfl

theorem utf8ByteSize_parent {p : Path} (hnames : p.names ≠ [])
    (h : p.text.utf8ByteSize ≤ pathLimit) : p.parent.text.utf8ByteSize ≤ pathLimit := by
  rcases text_parent hnames with ⟨s, hs⟩ | hs
  · rw [hs, String.utf8ByteSize_append] at h
    omega
  · rw [hs]
    decide

end Path

namespace Disk

variable {d made : Disk} {p : Path} {bytes : ByteArray} {f : Fault}

theorem hasDirectory_parent {node : Node} (hnames : p.names ≠ [])
    (h : d.look p = .ok (some node)) : d.hasDirectory p.parent = true := by
  have hnul : Path.hasNul p.text = false := by
    cases hnul : Path.hasNul p.text with
    | false => rfl
    | true =>
      rw [look, hnul] at h
      cases h
  have hfind : ∃ place, d.find p = .ok (place, some node) := by
    rw [look, hnul, if_neg Bool.false_ne_true] at h
    split at h
    · next place found hfind =>
      cases h
      exact ⟨place, hfind⟩
    · cases h
    · cases h
  obtain ⟨place, hfind⟩ := hfind
  unfold find at hfind
  split at hfind
  · cases hfind
  next hlimit =>
  rw [← List.dropLast_concat_getLast hnames, walk_append] at hfind
  split at hfind
  · cases hfind
  next above found hwalk =>
  have hdir : found = some .directory := by
    rw [walk] at hfind
    split at hfind
    · cases hfind
    · next hfollow => rw [content_of_walk hwalk, content_of_follow hfollow]
  have hparent : d.find p.parent = .ok (above, some .directory) := by
    unfold find
    rw [if_neg (Nat.not_lt.2 (Path.utf8ByteSize_parent hnames (Nat.not_lt.1 hlimit)))]
    exact hdir ▸ hwalk
  simp only [hasDirectory, look, Path.hasNul_parent hnames hnul, Bool.false_eq_true, if_false, hparent]

theorem not_hasDirectory_of_find {o : Obstacle} (h : d.find p = .error o) :
    d.hasDirectory p = false := by
  simp only [hasDirectory, look, h]
  cases Path.hasNul p.text <;> cases o <;> rfl

theorem hasDirectory_iff : d.hasDirectory p = true ↔ d.look p = .ok (some .directory) := by
  unfold hasDirectory
  split
  · next h => simp [h]
  · next h => simpa using h

theorem hasDirectory_parent_of_hasDirectory (h : d.hasDirectory p = true) :
    d.hasDirectory p.parent = true := by
  by_cases hnames : p.names = []
  · have hdrop : p.names.dropLast = p.names := by rw [hnames]; rfl
    rw [Path.parent, hdrop]
    exact h
  · exact hasDirectory_parent hnames (hasDirectory_iff.1 h)

theorem find_of_makeDirectory_missing (h : d.makeDirectory p = .error .missing) :
    d.find p = .error .missing := by
  unfold makeDirectory at h
  split at h
  · next hfind =>
    cases h
    exact hfind
  · cases h
  · cases h

theorem not_hasDirectory_of_makeDirectoriesFrom {depth : Nat}
    (h : d.makeDirectoriesFrom depth p = (.error f, made)) : made.hasDirectory p = false := by
  induction depth generalizing d p made f with
  | zero =>
    unfold makeDirectoriesFrom at h
    split at h
    · cases h
    · next hmake =>
      cases h
      exact not_hasDirectory_of_find (find_of_makeDirectory_missing hmake)
    · split at h <;> cases h
      next hdir => simpa using hdir
  | succ depth ih =>
    unfold makeDirectoriesFrom at h
    split at h
    · cases h
    · dsimp only at h
      split at h
      · next habove =>
        cases h
        cases hdir : made.hasDirectory p with
        | false => rfl
        | true => rw [← ih habove, hasDirectory_parent_of_hasDirectory hdir]
      · split at h
        · cases h
        · split at h <;> cases h
          next hdir => simpa using hdir
    · split at h <;> cases h
      next hdir => simpa using hdir

/-- Where directories could not be made there is none, whatever was made of
    those above. -/
theorem not_hasDirectory_of_makeDirectories (h : d.makeDirectories p = (.error f, made)) :
    made.hasDirectory p = false := by
  unfold makeDirectories at h
  split at h
  · next hnul =>
    cases h
    rw [hasDirectory, look, if_pos hnul]
  · exact not_hasDirectory_of_makeDirectoriesFrom h

/-! ## Files -/

/-- **After a write that succeeds the path leads to the file.** -/
theorem look_of_write (h : d.write p bytes = (.ok (), made)) :
    made.look p = .ok (some (.file bytes)) := by
  unfold write at h
  split at h
  · cases h
  next above _ =>
  unfold writeFile at h
  split at h
  · cases h
  next hnul =>
  split at h
  · cases h
  · cases h
  next place found hdir hfind =>
  cases h
  have hold : found ≠ some .directory := by
    rintro rfl
    exact hdir rfl
  rw [look, if_neg hnul, find_put hfind hold]

/-- **After a write that fails the path leads to no file.** -/
theorem look_of_write_error (hnames : p.names ≠ []) (h : d.write p bytes = (.error f, made))
    (content : ByteArray) : made.look p ≠ .ok (some (.file content)) := by
  intro hlook
  unfold write at h
  split at h
  · next hmake =>
    cases h
    have hdir := hasDirectory_parent hnames hlook
    rw [not_hasDirectory_of_makeDirectories hmake] at hdir
    cases hdir
  · unfold writeFile at h
    split at h
    · next hnul =>
      cases h
      rw [look, if_pos hnul] at hlook
      cases hlook
    · next hnul =>
      rw [look, if_neg hnul] at hlook
      split at h
      · next o hfind =>
        cases h
        rw [hfind] at hlook
        cases o <;> cases hlook
      · next hfind =>
        cases h
        rw [hfind] at hlook
        cases hlook
      · cases h

end Disk

/-! ## What is in the way -/

/-- The fault tells of something in the way of a path. -/
def Fault.isOfDisk : Fault → Bool
  | isDirectory _ | fileExists _ | fileMissing _ | notDirectory _ | nameTooLong _ => true
  | nulCharacter => true
  | _ => false

theorem Obstacle.isOfDisk_fault (o : Obstacle) (p : Path) : (o.fault p).isOfDisk = true := by
  cases o <;> rfl

namespace Disk

variable {d made : Disk} {p : Path} {bytes : ByteArray} {f : Fault}

theorem isOfDisk_of_makeDirectoriesFrom {depth : Nat}
    (h : d.makeDirectoriesFrom depth p = (.error f, made)) : f.isOfDisk = true := by
  induction depth generalizing d p made f with
  | zero =>
    unfold makeDirectoriesFrom at h
    split at h
    · cases h
    · cases h
      rfl
    · split at h <;> cases h
      exact Obstacle.isOfDisk_fault _ _
  | succ depth ih =>
    unfold makeDirectoriesFrom at h
    split at h
    · cases h
    · dsimp only at h
      split at h
      · next habove =>
        cases h
        exact ih habove
      · split at h
        · cases h
        · split at h <;> cases h
          exact Obstacle.isOfDisk_fault _ _
    · split at h <;> cases h
      exact Obstacle.isOfDisk_fault _ _

/-- **A write fails for nothing but what is in its way.** -/
theorem isOfDisk_of_write (h : d.write p bytes = (.error f, made)) : f.isOfDisk = true := by
  unfold write at h
  split at h
  · next hmake =>
    cases h
    unfold makeDirectories at hmake
    split at hmake
    · cases hmake
      rfl
    · exact isOfDisk_of_makeDirectoriesFrom hmake
  · unfold writeFile at h
    split at h
    · cases h
      rfl
    · split at h
      · cases h
        exact Obstacle.isOfDisk_fault _ _
      · cases h
        rfl
      · cases h

end Disk

end SpanQuest

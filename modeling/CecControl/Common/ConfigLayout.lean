/-
# The layout of the configuration file

What `ConfigManager::load` stores does not depend on blank lines, comments and white space. It is
also given here without reference to the loader: under a key of a section stands the value of the
last line that assigns to that key while the section is the one in force. Lines are classified by
what they look like, and an induction along the file keeps the section the loader is in equal to
the one named by the nearest header above.
-/

import CecControl.Common.ConfigManager
import Mathlib.Data.List.Induction
import Mathlib.Data.List.TakeWhile

namespace CecControl

/-! ## Trimming -/

def Blank (text : Text) : Prop := ∀ c ∈ text, isSpace c = true

instance decidableBlank (text : Text) : Decidable (Blank text) :=
  decidable_of_iff (text.all isSpace = true) List.all_eq_true

/-- Neither end is white space. -/
structure BareEnds (core : Text) : Prop where
  head : ∀ c, core.head? = some c → isSpace c = false
  last : ∀ c, core.getLast? = some c → isSpace c = false

theorem Blank.append {left right : Text} (hleft : Blank left) (hright : Blank right) :
    Blank (left ++ right) := fun c hc =>
  (List.mem_append.mp hc).elim (hleft c) (hright c)

theorem blank_nil : Blank [] := List.forall_mem_nil _

/-- Trimming takes off the white space around a core with bare ends. -/
theorem trim_eq {left core right : Text} (hleft : Blank left) (hright : Blank right)
    (hcore : BareEnds core) : trim (left ++ core ++ right) = core := by
  unfold trim
  by_cases hnil : core = []
  · subst hnil
    have hdrop : (left ++ right).dropWhile isSpace = [] :=
      List.dropWhile_eq_nil_iff.mpr (hleft.append hright)
    rw [List.append_nil, hdrop]
    rfl
  · have hfront : ∀ c, (core ++ right).head? = some c → isSpace c = false := by
      cases core with
      | nil => exact (hnil rfl).elim
      | cons c core => exact hcore.head
    have hback : ∀ c, core.reverse.head? = some c → isSpace c = false := by
      rw [List.head?_reverse]
      exact hcore.last
    have hright' : ∀ c ∈ right.reverse, isSpace c = true := fun c hc =>
      hright c (List.mem_reverse.mp hc)
    rw [List.append_assoc, (takeWhile_run hleft hfront).2, List.reverse_append,
      (takeWhile_run hright' hback).2, List.reverse_reverse]

/-- A text is what trimming leaves of it, with white space around. -/
theorem exists_trim (text : Text) :
    ∃ left right, text = left ++ trim text ++ right ∧ Blank left ∧ Blank right ∧
      BareEnds (trim text) := by
  have hmiddle : text.dropWhile isSpace =
      trim text ++ ((text.dropWhile isSpace).reverse.takeWhile isSpace).reverse := by
    unfold trim
    rw [← List.reverse_append, List.takeWhile_append_dropWhile, List.reverse_reverse]
  refine ⟨text.takeWhile isSpace, ((text.dropWhile isSpace).reverse.takeWhile isSpace).reverse,
    ?_, List.all_eq_true.mp List.all_takeWhile, ?_, ?_, ?_⟩
  · rw [List.append_assoc, ← hmiddle, List.takeWhile_append_dropWhile]
  · intro c hc
    exact List.all_eq_true.mp List.all_takeWhile c (List.mem_reverse.mp hc)
  · intro c hc
    have hhead : (text.dropWhile isSpace).head? = some c := by
      rw [hmiddle, List.head?_append, hc]
      rfl
    have hstop := List.head?_dropWhile_not isSpace text
    rwa [hhead] at hstop
  · intro c hc
    unfold trim at hc
    rw [List.getLast?_reverse] at hc
    have hstop := List.head?_dropWhile_not isSpace (text.dropWhile isSpace).reverse
    rwa [hc] at hstop

/-- White space around a text is trimmed with the text's own. -/
theorem trim_padded {left right : Text} (hleft : Blank left) (hright : Blank right) (text : Text) :
    trim (left ++ text ++ right) = trim text := by
  obtain ⟨left', right', htext, hleft', hright', hbare⟩ := exists_trim text
  have hsplit : left ++ text ++ right = (left ++ left') ++ trim text ++ (right' ++ right) := by
    conv_lhs => rw [htext]
    simp only [List.append_assoc]
  rw [hsplit]
  exact trim_eq (hleft.append hleft') (hright'.append hright) hbare

/-- The white space in front of a text does not change what is left of it. -/
theorem trim_dropWhile (text : Text) : trim (text.dropWhile isSpace) = trim text := by
  have hblank : Blank (text.takeWhile isSpace) := List.all_eq_true.mp List.all_takeWhile
  have hpadded := trim_padded hblank blank_nil (text.dropWhile isSpace)
  rw [List.append_nil, List.takeWhile_append_dropWhile] at hpadded
  exact hpadded.symm

/-- Trimming treats both ends alike. -/
theorem trim_reverse (text : Text) : trim text.reverse = (trim text).reverse := by
  obtain ⟨left, right, htext, hleft, hright, hhead, hlast⟩ := exists_trim text
  have hreverse : text.reverse = right.reverse ++ (trim text).reverse ++ left.reverse := by
    conv_lhs => rw [htext]
    simp only [List.reverse_append, List.append_assoc]
  rw [hreverse]
  apply trim_eq
  · exact fun c hc => hright c (List.mem_reverse.mp hc)
  · exact fun c hc => hleft c (List.mem_reverse.mp hc)
  · constructor
    · rwa [List.head?_reverse]
    · rwa [List.getLast?_reverse]

/-- The first character left is the first that is not white space. -/
theorem head?_trim (text : Text) : (trim text).head? = (text.dropWhile isSpace).head? := by
  obtain ⟨left, right, htext, hleft, hright, hbare⟩ := exists_trim text
  have hdrop : text.dropWhile isSpace = (trim text ++ right).dropWhile isSpace := by
    conv_lhs => rw [htext, List.append_assoc]
    exact List.dropWhile_append_of_pos hleft
  rw [hdrop]
  cases hcore : trim text with
  | nil => rw [List.nil_append, List.dropWhile_eq_nil_iff.mpr hright]
  | cons first rest =>
      have hfirst : isSpace first = false := hbare.head first (by rw [hcore]; rfl)
      rw [List.cons_append, List.dropWhile_cons, hfirst]
      rfl

/-! ## Kinds of lines -/

/-- Blank lines and comments: the first character that is not white space, if there is one, is a
number sign or a semicolon. -/
inductive IsIgnored : Text → Prop
  | blank {line : Text} (hline : Blank line) : IsIgnored line
  | comment {blanks rest : Text} {first : Char} (hblanks : Blank blanks)
      (hfirst : first = '#' ∨ first = ';') : IsIgnored (blanks ++ first :: rest)

/-- A name in brackets, with nothing but white space around them. -/
def IsHeader (line name : Text) : Prop :=
  ∃ left right, line = left ++ ('[' :: name ++ [']']) ++ right ∧ Blank left ∧ Blank right

/-- Any other line with an equals sign: the key and the value are what stands on either side of
the first one, trimmed. -/
structure IsAssignment (line key value : Text) : Prop where
  notIgnored : ¬ IsIgnored line
  notHeader : ∀ name, ¬ IsHeader line name
  split : ∃ before after, line = before ++ '=' :: after ∧ '=' ∉ before ∧
    key = trim before ∧ value = trim after

theorem isIgnored_iff {line : Text} :
    IsIgnored line ↔ ∀ c, (trim line).head? = some c → c = '#' ∨ c = ';' := by
  constructor
  · intro h
    cases h with
    | blank hline =>
        rw [head?_trim, List.dropWhile_eq_nil_iff.mpr hline]
        intro c hc
        cases hc
    | @comment blanks rest first hblanks hfirst =>
        have hbare : isSpace first = false := by
          rcases hfirst with rfl | rfl <;> decide
        rw [head?_trim, List.dropWhile_append_of_pos hblanks, List.dropWhile_cons, hbare]
        intro c hc
        cases hc
        exact hfirst
  · intro h
    obtain ⟨left, right, hline, hleft, hright, -⟩ := exists_trim line
    cases hcore : trim line with
    | nil =>
        rw [hcore, List.append_nil] at hline
        rw [hline]
        exact .blank (hleft.append hright)
    | cons first rest =>
        rw [hcore, List.append_assoc] at hline
        rw [hline]
        exact .comment hleft (h first (by rw [hcore]; rfl))

/-- Brackets are not white space. -/
theorem bareEnds_header (name : Text) : BareEnds ('[' :: name ++ [']']) := by
  constructor
  · intro c hc
    cases hc
    rfl
  · intro c hc
    rw [List.getLast?_concat] at hc
    cases hc
    rfl

theorem isHeader_iff {line name : Text} : IsHeader line name ↔ trim line = '[' :: name ++ [']'] := by
  constructor
  · rintro ⟨left, right, rfl, hleft, hright⟩
    exact trim_eq hleft hright (bareEnds_header name)
  · intro h
    obtain ⟨left, right, hline, hleft, hright, -⟩ := exists_trim line
    rw [h] at hline
    exact ⟨left, right, hline, hleft, hright⟩

/-- A line is a header if it begins with one bracket and ends with the other. -/
theorem exists_isHeader_iff {line : Text} :
    (∃ name, IsHeader line name) ↔
      (trim line).head? = some '[' ∧ (trim line).getLast? = some ']' := by
  simp only [isHeader_iff]
  constructor
  · rintro ⟨name, h⟩
    rw [h]
    exact ⟨rfl, List.getLast?_concat⟩
  · rintro ⟨hhead, hlast⟩
    obtain ⟨rest, hrest⟩ : ∃ rest, trim line = '[' :: rest := by
      cases hcore : trim line with
      | nil =>
          rw [hcore] at hhead
          cases hhead
      | cons first rest =>
          rw [hcore] at hhead
          cases hhead
          exact ⟨rest, rfl⟩
    rw [hrest] at hlast ⊢
    cases rest using List.reverseRecOn with
    | nil => cases hlast
    | append_singleton name last =>
        rw [← List.cons_append, List.getLast?_concat] at hlast
        cases hlast
        exact ⟨name, rfl⟩

theorem dropWhile_append_equals (before after : Text) :
    (before ++ '=' :: after).dropWhile isSpace = before.dropWhile isSpace ++ '=' :: after := by
  rw [List.dropWhile_append]
  split_ifs with hblank
  · rw [List.isEmpty_iff.mp hblank]
    rfl
  · rfl

/-- Trimming takes white space off the front of what precedes an equals sign and off the end of
what follows it, and nothing else. -/
theorem trim_split (before after : Text) :
    ∃ key value, trim (before ++ '=' :: after) = key ++ '=' :: value ∧ (∀ c ∈ key, c ∈ before) ∧
      trim key = trim before ∧ trim value = trim after ∧ key.head? = (trim before).head? ∧
      value.getLast? = (trim after).getLast? := by
  refine ⟨before.dropWhile isSpace, (after.reverse.dropWhile isSpace).reverse, ?_, ?_, ?_, ?_, ?_, ?_⟩
  · have hback : (before.dropWhile isSpace ++ '=' :: after).reverse =
        after.reverse ++ '=' :: (before.dropWhile isSpace).reverse := by simp
    unfold trim
    rw [dropWhile_append_equals, hback, dropWhile_append_equals]
    simp
  · exact (List.dropWhile_sublist _).subset
  · exact trim_dropWhile before
  · rw [trim_reverse, trim_dropWhile, trim_reverse, List.reverse_reverse]
  · exact (head?_trim before).symm
  · rw [List.getLast?_reverse, ← head?_trim, trim_reverse, List.head?_reverse]

/-- Whether a line with an equals sign is a comment or a header depends on what stands on either
side of the sign, trimmed. -/
theorem ends_trim_split (before after : Text) :
    (trim (before ++ '=' :: after)).head? = some ((trim before).head?.getD '=') ∧
    (trim (before ++ '=' :: after)).getLast? = some ((trim after).getLast?.getD '=') := by
  obtain ⟨key, value, hline, -, -, -, hhead, hlast⟩ := trim_split before after
  rw [hline, ← hhead, ← hlast]
  constructor
  · cases key <;> rfl
  · rw [List.getLast?_append, List.getLast?_cons]
    rfl

/-- A text is split at its first equals sign. -/
theorem split_first {before : Text} (hbefore : '=' ∉ before) (after : Text) :
    (before ++ '=' :: after).takeWhile (· != '=') = before ∧
    (before ++ '=' :: after).dropWhile (· != '=') = '=' :: after := by
  apply takeWhile_run
  · intro c hc
    rw [bne_iff_ne]
    rintro rfl
    exact hbefore hc
  · intro c hc
    cases hc
    rfl

theorem splitAssignment_eq {before : Text} (hbefore : '=' ∉ before) (after : Text) :
    splitAssignment (before ++ '=' :: after) = some (trim before, trim after) := by
  unfold splitAssignment
  rw [(split_first hbefore after).1, (split_first hbefore after).2]

theorem IsAssignment.split_eq {line key value : Text} (h : IsAssignment line key value) :
    splitAssignment line = some (key, value) := by
  obtain ⟨-, -, before, after, rfl, hbefore, rfl, rfl⟩ := h
  exact splitAssignment_eq hbefore after

/-- So white space around the sign changes nothing. -/
theorem IsAssignment.respaced {before after before' after' key value : Text}
    (h : IsAssignment (before ++ '=' :: after) key value) (hbefore : '=' ∉ before)
    (hbefore' : '=' ∉ before') (hkey : trim before' = trim before)
    (hvalue : trim after' = trim after) : IsAssignment (before' ++ '=' :: after') key value := by
  obtain ⟨hhead, hlast⟩ := ends_trim_split before after
  obtain ⟨hhead', hlast'⟩ := ends_trim_split before' after'
  rw [hkey, ← hhead] at hhead'
  rw [hvalue, ← hlast] at hlast'
  have hsplit := h.split_eq
  rw [splitAssignment_eq hbefore after] at hsplit
  cases hsplit
  refine ⟨?_, ?_, before', after', rfl, hbefore', hkey.symm, hvalue.symm⟩
  · rw [isIgnored_iff, hhead', ← isIgnored_iff]
    exact h.notIgnored
  · rw [← not_exists, exists_isHeader_iff, hhead', hlast', ← exists_isHeader_iff]
    exact not_exists.mpr h.notHeader

/-! ## What the loader does with a line -/

theorem readLine_ignored {line : Text} (h : IsIgnored line) (state : Loading) :
    readLine state line = state := by
  rw [isIgnored_iff] at h
  unfold readLine
  cases hhead : (trim line).head? with
  | none => simp only [hhead]
  | some first =>
      simp only [hhead]
      exact if_pos (h first hhead)

theorem readLine_header {line name : Text} (h : IsHeader line name) (state : Loading) :
    readLine state line = { state with currentSection := name } := by
  unfold readLine
  rw [isHeader_iff.mp h]
  have hlast : ('[' :: name ++ [']']).getLast? = some ']' := List.getLast?_concat
  have hname : ('[' :: name ++ [']']).tail.dropLast = name := List.dropLast_concat
  dsimp only [List.cons_append, List.head?_cons] at hlast hname ⊢
  rw [if_neg (by decide), if_pos ⟨rfl, hlast⟩, hname]

/-- A line that is neither ignored nor a header goes to `splitAssignment`. -/
theorem readLine_other {line : Text} (hignored : ¬ IsIgnored line)
    (hheader : ∀ name, ¬ IsHeader line name) (state : Loading) :
    readLine state line = (splitAssignment (trim line)).elim state fun assignment =>
      { state with
        config := state.config.assign state.currentSection assignment.1 assignment.2 } := by
  rw [isIgnored_iff] at hignored
  rw [← not_exists, exists_isHeader_iff] at hheader
  unfold readLine
  cases hhead : (trim line).head? with
  | none =>
      rw [hhead] at hignored
      exact (hignored fun c hc => nomatch hc).elim
  | some first =>
      have hfirst : ¬ (first = '#' ∨ first = ';') := by
        intro h
        apply hignored
        intro c hc
        rw [hhead] at hc
        cases hc
        exact h
      have hbrackets : ¬ (first = '[' ∧ (trim line).getLast? = some ']') := by
        rintro ⟨rfl, hlast⟩
        exact hheader ⟨hhead, hlast⟩
      simp only [hhead]
      rw [if_neg hfirst, if_neg hbrackets]
      cases splitAssignment (trim line) <;> rfl

theorem readLine_assignment {line key value : Text} (h : IsAssignment line key value)
    (state : Loading) :
    readLine state line =
      { state with config := state.config.assign state.currentSection key value } := by
  obtain ⟨hignored, hheader, before, after, rfl, hbefore, rfl, rfl⟩ := h
  obtain ⟨key, value, hline, hkey, htrimKey, htrimValue, -⟩ := trim_split before after
  rw [readLine_other hignored hheader, hline,
    splitAssignment_eq (fun hmem => hbefore (hkey _ hmem)), htrimKey, htrimValue]
  rfl

/-- A line without an equals sign that is no header changes nothing. -/
theorem readLine_rest {line : Text} (hheader : ∀ name, ¬ IsHeader line name)
    (hassignment : ∀ key value, ¬ IsAssignment line key value) (state : Loading) :
    readLine state line = state := by
  by_cases hignored : IsIgnored line
  · exact readLine_ignored hignored state
  · have hequals : '=' ∉ trim line := by
      intro hmem
      obtain ⟨left, right, hline, -⟩ := exists_trim line
      have hmem : '=' ∈ line := by
        rw [hline]
        exact List.mem_append_left right (List.mem_append_right left hmem)
      obtain ⟨before, after, rfl, hbefore⟩ := List.eq_append_cons_of_mem hmem
      exact hassignment _ _ ⟨hignored, hheader, before, after, rfl, hbefore, rfl, rfl⟩
    have hnone : splitAssignment (trim line) = none := by
      have hdrop : (trim line).dropWhile (· != '=') = [] := by
        rw [List.dropWhile_eq_nil_iff]
        rintro c hc
        rw [bne_iff_ne]
        rintro rfl
        exact hequals hc
      unfold splitAssignment
      rw [hdrop]
    rw [readLine_other hignored hheader, hnone]
    rfl

/-! ## Relaid files -/

/-- A line with white space added at its ends, and around the first equals sign where it is an
assignment. A line holds no newline, so none is added. -/
inductive RespacedLine : Text → Text → Prop
  | ends {left right : Text} (line : Text) (hleft : Blank left) (hright : Blank right) :
      RespacedLine line (left ++ line ++ right)
  | equals {left right left' right' before after key value : Text} (hbefore : '=' ∉ before)
      (hassignment : IsAssignment (before ++ '=' :: after) key value) (hleft : Blank left)
      (hright : Blank right) (hleft' : Blank left') (hright' : Blank right') :
      RespacedLine (before ++ '=' :: after)
        ((left ++ before ++ right) ++ '=' :: (left' ++ after ++ right'))

/-- A file with lines that are ignored put in anywhere, and its own lines respaced. -/
inductive Relaid : List Text → List Text → Prop
  | nil : Relaid [] []
  | insert {line : Text} {before after : List Text} (hline : IsIgnored line)
      (hrest : Relaid before after) : Relaid before (line :: after)
  | respace {line line' : Text} {before after : List Text} (hline : RespacedLine line line')
      (hrest : Relaid before after) : Relaid (line :: before) (line' :: after)

theorem Blank.equals_notMem {text : Text} (h : Blank text) : '=' ∉ text := fun hmem =>
  absurd (h _ hmem) (by decide)

theorem readLine_respaced {line line' : Text} (h : RespacedLine line line') (state : Loading) :
    readLine state line' = readLine state line := by
  cases h with
  | ends line hleft hright =>
      unfold readLine
      rw [trim_padded hleft hright]
  | @equals left right left' right' before after key value hbefore hassignment hleft hright hleft'
      hright' =>
      have hbefore' : '=' ∉ left ++ before ++ right := by
        simp [hbefore, hleft.equals_notMem, hright.equals_notMem]
      have hrespaced := hassignment.respaced hbefore hbefore' (trim_padded hleft hright before)
        (trim_padded hleft' hright' after)
      rw [readLine_assignment hrespaced, readLine_assignment hassignment]

/-- The loader goes through a relaid file as through the original. -/
theorem foldl_readLine_relaid {before after : List Text} (h : Relaid before after)
    (state : Loading) : after.foldl readLine state = before.foldl readLine state := by
  induction h generalizing state with
  | nil => rfl
  | insert hline _ ih => rw [List.foldl_cons, readLine_ignored hline, ih]
  | respace hline _ ih => rw [List.foldl_cons, List.foldl_cons, readLine_respaced hline, ih]

/-! ## What is stored -/

/-- The header nearest above the end of the lines names the section; without one, the empty text
does. -/
def InSection (lines : List Text) (section_ : Text) : Prop :=
  (section_ = [] ∧ ∀ line ∈ lines, ∀ name, ¬ IsHeader line name) ∨
  ∃ before header after, lines = before ++ header :: after ∧ IsHeader header section_ ∧
    ∀ line ∈ after, ∀ name, ¬ IsHeader line name

/-- The line assigns the value, at a place where the section is in force. -/
def AssignsAt (before : List Text) (line section_ key value : Text) : Prop :=
  InSection before section_ ∧ IsAssignment line key value

/-- The value of the last line that assigns to the key in the section. -/
def LastAssigned (lines : List Text) (section_ key value : Text) : Prop :=
  ∃ before line after, lines = before ++ line :: after ∧
    AssignsAt before line section_ key value ∧
    ∀ between later rest value', after = between ++ later :: rest →
      ¬ AssignsAt (before ++ line :: between) later section_ key value'

theorem snoc_split {lines before after : List Text} {last line : Text} :
    lines ++ [last] = before ++ line :: after ↔
      (after = [] ∧ before = lines ∧ line = last) ∨
      ∃ between, after = between ++ [last] ∧ lines = before ++ line :: between := by
  constructor
  · intro h
    cases after using List.reverseRecOn with
    | nil =>
        obtain ⟨rfl, hlast⟩ := List.append_inj' h rfl
        cases hlast
        exact .inl ⟨rfl, rfl, rfl⟩
    | append_singleton between last' =>
        rw [← List.cons_append, ← List.append_assoc] at h
        obtain ⟨rfl, hlast⟩ := List.append_inj' h rfl
        cases hlast
        exact .inr ⟨between, rfl, rfl⟩
  · rintro (⟨rfl, rfl, rfl⟩ | ⟨between, rfl, rfl⟩)
    · rfl
    · simp

/-- A header puts its section in force. -/
theorem inSection_header {lines : List Text} {line name : Text} (h : IsHeader line name)
    (section_ : Text) : InSection (lines ++ [line]) section_ ↔ section_ = name := by
  constructor
  · rintro (⟨-, hnone⟩ | ⟨before, header, after, hlines, hheader, hafter⟩)
    · exact (hnone line (by simp) name h).elim
    · rw [snoc_split] at hlines
      obtain ⟨-, -, rfl⟩ | ⟨between, rfl, -⟩ := hlines
      · have hnames := (isHeader_iff.mp hheader).symm.trans (isHeader_iff.mp h)
        exact List.append_cancel_right (List.cons.inj hnames).2
      · exact (hafter line (by simp) name h).elim
  · rintro rfl
    exact .inr ⟨lines, line, [], rfl, h, List.forall_mem_nil _⟩

/-- Any other line leaves the section as it is. -/
theorem inSection_other {lines : List Text} {line : Text} (h : ∀ name, ¬ IsHeader line name)
    (section_ : Text) : InSection (lines ++ [line]) section_ ↔ InSection lines section_ := by
  constructor
  · rintro (⟨rfl, hnone⟩ | ⟨before, header, after, hlines, hheader, hafter⟩)
    · exact .inl ⟨rfl, fun other hother => hnone other (List.mem_append_left _ hother)⟩
    · rw [snoc_split] at hlines
      obtain ⟨-, -, rfl⟩ | ⟨between, rfl, rfl⟩ := hlines
      · exact (h section_ hheader).elim
      · exact .inr ⟨before, header, between, rfl, hheader,
          fun other hother => hafter other (List.mem_append_left _ hother)⟩
  · have hlast : ∀ others : List Text, (∀ other ∈ others, ∀ name, ¬ IsHeader other name) →
        ∀ other ∈ others ++ [line], ∀ name, ¬ IsHeader other name := by
      intro others hothers other hother
      rw [List.mem_append, List.mem_singleton] at hother
      rcases hother with hother | rfl
      · exact hothers other hother
      · exact h
    rintro (⟨rfl, hnone⟩ | ⟨before, header, after, rfl, hheader, hafter⟩)
    · exact .inl ⟨rfl, hlast lines hnone⟩
    · exact .inr ⟨before, header, after ++ [line], by simp, hheader, hlast after hafter⟩

/-- A further line assigns last, or the line that did so before still does. -/
theorem lastAssigned_snoc {lines : List Text} {line section_ key value : Text} :
    LastAssigned (lines ++ [line]) section_ key value ↔
      AssignsAt lines line section_ key value ∨
      (∀ value', ¬ AssignsAt lines line section_ key value') ∧
        LastAssigned lines section_ key value := by
  constructor
  · rintro ⟨before, assigning, after, hlines, hassigns, hlater⟩
    rw [snoc_split] at hlines
    obtain ⟨-, rfl, rfl⟩ | ⟨between, rfl, rfl⟩ := hlines
    · exact .inl hassigns
    · refine .inr ⟨fun value' => ?_, before, assigning, between, rfl, hassigns, ?_⟩
      · have hlast := hlater between line [] value' rfl
        exact hlast
      · rintro first later rest value' rfl
        exact hlater first later (rest ++ [line]) value' (by simp)
  · rintro (hassigns | ⟨hnot, before, assigning, after, rfl, hassigns, hlater⟩)
    · exact ⟨lines, line, [], rfl, hassigns, by simp⟩
    · refine ⟨before, assigning, after ++ [line], by simp, hassigns, ?_⟩
      intro between later rest value' hsplit
      rw [snoc_split] at hsplit
      obtain ⟨-, rfl, rfl⟩ | ⟨between', -, rfl⟩ := hsplit
      · exact hnot value'
      · exact hlater between later between' value' rfl

theorem lookup_assign (config : SectionMap) (section_ key value other name : Text) :
    (config.assign section_ key value).lookup other name =
      if other = section_ ∧ name = key then some value else config.lookup other name := by
  unfold SectionMap.lookup SectionMap.assign
  by_cases hsection : other = section_
  · subst hsection
    by_cases hkey : name = key
    · simp [hkey]
    · simp [hkey]
  · simp [hsection]

/-- The loader is in the section in force, and has stored what is assigned last. -/
structure Loaded (lines : List Text) (state : Loading) : Prop where
  inForce : ∀ section_, InSection lines section_ ↔ section_ = state.currentSection
  stored : ∀ section_ key value, state.config.lookup section_ key = some value ↔
    LastAssigned lines section_ key value

/-- One more line. -/
theorem Loaded.readLine {lines : List Text} {state : Loading} (h : Loaded lines state)
    (line : Text) : Loaded (lines ++ [line]) (readLine state line) := by
  by_cases hheader : ∃ name, IsHeader line name
  · obtain ⟨name, hname⟩ := hheader
    have hnot : ∀ section_ key value, ¬ AssignsAt lines line section_ key value :=
      fun _ _ _ hassigns => hassigns.2.notHeader name hname
    rw [readLine_header hname]
    constructor
    · exact inSection_header hname
    · intro section_ key value
      rw [lastAssigned_snoc, h.stored]
      simp [hnot]
  · rw [not_exists] at hheader
    by_cases hassignment : ∃ key value, IsAssignment line key value
    · obtain ⟨key, value, hline⟩ := hassignment
      have hassigns : ∀ section_ key' value', AssignsAt lines line section_ key' value' ↔
          section_ = state.currentSection ∧ key' = key ∧ value' = value := by
        intro section_ key' value'
        unfold AssignsAt
        rw [h.inForce]
        apply and_congr_right
        intro _
        constructor
        · intro hline'
          have hsplit := hline'.split_eq.symm.trans hline.split_eq
          cases hsplit
          exact ⟨rfl, rfl⟩
        · rintro ⟨rfl, rfl⟩
          exact hline
      rw [readLine_assignment hline]
      constructor
      · intro section_
        rw [inSection_other hheader, h.inForce]
      · intro section_ key' value'
        rw [lastAssigned_snoc, lookup_assign]
        simp only [hassigns, ← h.stored]
        by_cases hsame : section_ = state.currentSection ∧ key' = key
        · simp [hsame, eq_comm]
        · rw [if_neg hsame]
          constructor
          · intro hstored
            exact .inr ⟨fun _ hlast => hsame ⟨hlast.1, hlast.2.1⟩, hstored⟩
          · rintro (⟨hsection, hkey, -⟩ | ⟨-, hstored⟩)
            · exact (hsame ⟨hsection, hkey⟩).elim
            · exact hstored
    · simp only [not_exists] at hassignment
      have hnot : ∀ section_ key value, ¬ AssignsAt lines line section_ key value :=
        fun _ key value hassigns => hassignment key value hassigns.2
      rw [readLine_rest hheader hassignment]
      constructor
      · intro section_
        rw [inSection_other hheader, h.inForce]
      · intro section_ key value
        rw [lastAssigned_snoc, h.stored]
        simp [hnot]

/-- The whole file. -/
theorem loaded (lines : List Text) : Loaded lines (lines.foldl readLine {}) := by
  induction lines using List.reverseRecOn with
  | nil =>
      constructor
      · intro section_
        simp [InSection]
      · intro section_ key value
        simp [SectionMap.lookup, LastAssigned]
  | append_singleton lines line ih =>
      rw [List.foldl_append]
      exact ih.readLine line

/-- **Layout.** Files that differ in blank lines, comments and white space load to the same map,
and the map holds, under a key of a section, what is assigned to it last. -/
theorem layout_irrelevant {text text' : Text} (h : Relaid (lines text) (lines text')) :
    load text' = load text ∧
    ∀ section_ key value, (load text).lookup section_ key = some value ↔
      LastAssigned (lines text) section_ key value := by
  constructor
  · unfold load
    rw [foldl_readLine_relaid h]
  · exact (loaded (lines text)).stored

/-- A carriage return, a comment and spaces around the sign. -/
theorem layout_irrelevant_spaced :
    load "[Daemon]\r\n; log\nLevel = 2\n".toList = load "[Daemon]\nLevel=2\n".toList := by
  have hplain : lines "[Daemon]\nLevel=2\n".toList =
      ["[Daemon]".toList, "Level".toList ++ '=' :: ['2']] := by decide
  have hspaced : lines "[Daemon]\r\n; log\nLevel = 2\n".toList =
      [[] ++ "[Daemon]".toList ++ ['\r'], [] ++ ';' :: " log".toList,
        ([] ++ "Level".toList ++ [' ']) ++ '=' :: ([' '] ++ ['2'] ++ [])] := by decide
  have hassignment : IsAssignment ("Level".toList ++ '=' :: ['2']) "Level".toList ['2'] := by
    refine ⟨?_, ?_, "Level".toList, ['2'], rfl, by decide, by decide, by decide⟩
    · rw [isIgnored_iff]
      intro h
      exact absurd (h 'L' (by decide)) (by decide)
    · rw [← not_exists, exists_isHeader_iff]
      decide
  refine (layout_irrelevant ?_).1
  rw [hplain, hspaced]
  apply Relaid.respace (.ends _ blank_nil (by decide))
  apply Relaid.insert (.comment blank_nil (.inr rfl))
  exact .respace (.equals (by decide) hassignment blank_nil (by decide) (by decide) blank_nil) .nil

end CecControl

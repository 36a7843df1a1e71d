import ExpertAdvisor.Proofs.Json.EscapedText
import ExpertAdvisor.Proofs.Text.Classes

namespace ExpertAdvisor

open Text

/-!
# Reading printed values

A printed value without numbers is read as the value again, in either layout and
with any text behind it.  The reader's fuel is spent on characters: a list costs
one for every item besides the item's own, and prints a separator for it.
-/

/-- A value of texts, flags and nulls, whose records give every name once. -/
inductive Value.Textual : Value → Prop where
  | null : Textual .null
  | boolean (flag : Bool) : Textual (.boolean flag)
  | text (content : String) : Textual (.text content)
  | list {items : List Value} :
      (∀ item ∈ items, Textual item) → Textual (.list items)
  | record {fields : Record} :
      fields.names.Nodup → (∀ field ∈ fields, Textual field.2) → Textual (.record fields)

namespace Record

/-- A new field goes to the end of a record. -/
theorem insert_of_new
    {record : Record}
    {name : String}
    (isNew : name ∉ record.names)
    (value : Value) :
    insert record name value = record ++ [(name, value)] := by
  have hasNot : has record name = false := by
    rw [has, List.any_eq_false]
    intro field member isName
    exact isNew (eq_of_beq isName ▸ List.mem_map_of_mem member)
  rw [insert, hasNot, if_neg Bool.false_ne_true]

/-- Fields with different names stay as they are given. -/
theorem ofFields_of_nodup
    {fields : List (String × Value)}
    (distinct : (names fields).Nodup) :
    ofFields fields = fields := by
  have goesOn (fields record : Record) (given : (names (record ++ fields)).Nodup) :
      fields.foldl (fun record field => insert record field.1 field.2) record =
        record ++ fields := by
    induction fields generalizing record with
    | nil => exact (List.append_nil record).symm
    | cons field rest inductionHypothesis =>
        have isNew : field.1 ∉ record.names := by
          rw [names, List.map_append, List.nodup_append] at given
          intro member
          exact given.2.2 _ member _ List.mem_cons_self rfl
        rw [List.append_cons] at given ⊢
        rw [List.foldl_cons, insert_of_new isNew]
        exact inductionHypothesis _ given
  exact goesOn fields [] distinct

end Record

namespace Json

theorem printItems_eq_map
    (layout : Layout)
    (items : List Value) :
    printItems layout items = items.map (print layout) := by
  induction items with
  | nil => rw [printItems, List.map_nil]
  | cons item rest inductionHypothesis =>
      rw [printItems, inductionHypothesis, List.map_cons]

/-- A field as it is printed. -/
def printedField
    (layout : Layout)
    (field : String × Value) : String :=
  quotedText field.1 ++ ": " ++ print layout field.2

theorem printFields_eq_map
    (layout : Layout)
    (fields : List (String × Value)) :
    printFields layout fields = fields.map (printedField layout) := by
  induction fields with
  | nil => rw [printFields, List.map_nil]
  | cons field rest inductionHypothesis =>
      rw [printFields, inductionHypothesis, List.map_cons, printedField]

/-! Gaps. -/

theorem within_lineBreak (depth : Nat) : Within isGap (Layout.lineBreak depth).toList := by
  rw [Layout.lineBreak, String.toList_append, Within.append_iff]
  refine ⟨by decide, fun character member => ?_⟩
  rw [String.toList_ofList] at member
  have isSpace : character = ' ' := List.eq_of_mem_replicate member
  rw [isSpace]
  decide

theorem Layout.enclose_nil
    (layout : Layout)
    (opening closing : String) :
    layout.enclose opening closing [] = opening ++ closing :=
  if_pos rfl

/-- A layout differs from others only in the gaps that it puts around the items. -/
theorem Layout.exists_gaps
    (layout : Layout)
    (opening closing : String)
    (printed : α → String)
    {items : List α}
    (some : items ≠ []) :
    ∃ before between behind,
      Within isGap before ∧ Within isGap between ∧ Within isGap behind ∧
        (layout.enclose opening closing (items.map printed)).toList =
          opening.toList ++ (before ++
            ((',' :: between).intercalate (items.map fun item => (printed item).toList) ++
              (behind ++ closing.toList))) := by
  have notEmpty : (items.map printed).isEmpty = false := by
    rwa [List.isEmpty_map, List.isEmpty_eq_false_iff]
  have texts : (items.map printed).map String.toList =
      items.map fun item => (printed item).toList :=
    List.map_map
  cases layout with
  | compact =>
      refine ⟨[], [' '], [], .nil, by decide, .nil, ?_⟩
      simp [Layout.enclose, notEmpty, String.toList_intercalate, texts]
  | indented depth =>
      refine ⟨_, _, _, within_lineBreak (depth + 1), within_lineBreak (depth + 1),
        within_lineBreak depth, ?_⟩
      simp [Layout.enclose, notEmpty, String.toList_intercalate, texts]

/-- The gap in front of a text is skipped, and nothing else. -/
theorem skipGap_append
    {gap text : List Char}
    (within : Within isGap gap)
    (leaves : Leaves isGap text) :
    skipGap (codePoints (gap ++ text)) = codePoints text := by
  have gaps : ∀ point ∈ codePoints gap, (point.character?.any isGap) = true :=
    List.forall_mem_map.mpr within
  rw [skipGap, codePoints_append, List.dropWhile_append_of_pos gaps]
  cases text with
  | nil => rfl
  | cons character rest =>
      have notGap := Leaves.cons_iff.mp leaves
      exact List.dropWhile_cons_of_neg (Bool.eq_false_iff.mp notGap)

/-- A text that begins with no gap stays as it is. -/
theorem skipGap_of_leaves
    {text : List Char}
    (leaves : Leaves isGap text) :
    skipGap (codePoints text) = codePoints text :=
  skipGap_append .nil leaves

/-! Items and fields. -/

/-- The characters that a printed value may begin with. -/
def openingCharacters : List Char :=
  ['"', '[', '\x7b', 'n', 't', 'f']

/-- A text that is read as a value, with any text behind it. -/
structure ReadsBack (printed : List Char) (value : Value) : Prop where
  begins : ∃ first ∈ openingCharacters, ∃ rest, printed = first :: rest
  read (fuel : Nat) (rest : List Char) :
    printed.length ≤ fuel →
      readValue fuel (codePoints (printed ++ rest)) = .ok (value, codePoints rest)

namespace ReadsBack

variable {printed : List Char} {value : Value}

theorem leaves
    (readsBack : ReadsBack printed value)
    (rest : List Char) :
    Leaves isGap (printed ++ rest) := by
  obtain ⟨first, member, more, rfl⟩ := readsBack.begins
  have noGaps : openingCharacters.all (fun first => !isGap first) = true := by decide
  have notGap := List.all_eq_true.mp noGaps first member
  rw [Bool.not_eq_true'] at notGap
  exact Leaves.cons_iff.mpr notGap

/-- A text with a character leaves the reader some fuel. -/
theorem of_step
    (begins : ∃ first ∈ openingCharacters, ∃ rest, printed = first :: rest)
    (read : ∀ fuel rest, printed.length ≤ fuel + 1 →
      readValue (fuel + 1) (codePoints (printed ++ rest)) = .ok (value, codePoints rest)) :
    ReadsBack printed value := by
  refine ⟨begins, fun fuel rest enough => ?_⟩
  obtain ⟨first, _, more, rfl⟩ := begins
  cases fuel with
  | zero => exact absurd enough (Nat.not_succ_le_zero _)
  | succ fuel => exact read fuel rest enough

end ReadsBack

theorem prefix_intercalate
    (separator : List Char)
    (printed : α → List Char)
    (item : α)
    (rest : List α) :
    printed item <+: separator.intercalate ((item :: rest).map printed) := by
  cases rest with
  | nil => exact ⟨[], by rw [List.map_singleton, List.intercalate_singleton, List.append_nil]⟩
  | cons next others =>
      rw [List.map_cons, List.map_cons, List.intercalate_cons_cons, List.append_assoc]
      exact List.prefix_append _ _

/-! Items between commas. -/

/--
A loop of the reader that reads an item as it is printed, keeps it as it is
given, and then either ends at the closing character or goes on behind a comma.
-/
structure ReadsItem
    (loop : Nat → List β → List CodePoint → Reading Value)
    (printed : α → List Char)
    (given : α → β)
    (closing : Char)
    (finish : List β → Value)
    (item : α) : Prop where
  leaves (rest : List Char) : Leaves isGap (printed item ++ rest)
  last {fuel : Nat} {rest ending : List Char} (read : List β) :
    (printed item).length ≤ fuel → skipGap (codePoints rest) = codePoints (closing :: ending) →
      loop (fuel + 1) read (codePoints (printed item ++ rest)) =
        .ok (finish (given item :: read).reverse, codePoints ending)
  onward {fuel : Nat} {rest following : List Char} (read : List β) :
    (printed item).length ≤ fuel → skipGap (codePoints rest) = codePoints (',' :: following) →
      loop (fuel + 1) read (codePoints (printed item ++ rest)) =
        loop fuel (given item :: read) (skipGap (codePoints following))

/-- A loop reads all items up to the closing character, behind those already read. -/
theorem loop_intercalate
    {loop : Nat → List β → List CodePoint → Reading Value}
    {printed : α → List Char}
    {given : α → β}
    {closing : Char}
    {finish : List β → Value}
    {item : α}
    {rest : List α}
    {between behind : List Char}
    (reads : ∀ known ∈ item :: rest, ReadsItem loop printed given closing finish known)
    (gap : Within isGap between)
    (gapBehind : Within isGap behind)
    (closes : isGap closing = false)
    (ending : List Char)
    (fuel : Nat)
    (read : List β)
    (enough : ((',' :: between).intercalate ((item :: rest).map printed)).length < fuel) :
    loop fuel read
        (codePoints ((',' :: between).intercalate ((item :: rest).map printed) ++
          (behind ++ closing :: ending))) =
      .ok (finish (read.reverse ++ (item :: rest).map given), codePoints ending) := by
  induction rest generalizing item fuel read with
  | nil =>
      obtain ⟨more, rfl⟩ := Nat.exists_eq_add_one_of_ne_zero (Nat.ne_zero_of_lt enough)
      rw [List.map_singleton, List.intercalate_singleton] at enough ⊢
      have ended : skipGap (codePoints (behind ++ closing :: ending)) =
          codePoints (closing :: ending) :=
        skipGap_append gapBehind (Leaves.cons_iff.mpr closes)
      rw [(reads item List.mem_cons_self).last read (by omega) ended, List.reverse_cons,
        List.map_singleton]
  | cons next others inductionHypothesis =>
      obtain ⟨more, rfl⟩ := Nat.exists_eq_add_one_of_ne_zero (Nat.ne_zero_of_lt enough)
      have readsOthers : ∀ known ∈ next :: others,
          ReadsItem loop printed given closing finish known :=
        fun known member => reads known (List.mem_cons_of_mem _ member)
      have separated (text : List Char) :
          skipGap (codePoints (',' :: text)) = codePoints (',' :: text) :=
        skipGap_of_leaves (Leaves.cons_iff.mpr (by decide))
      obtain ⟨following, begins⟩ := prefix_intercalate (',' :: between) printed next others
      have skipped (text : List Char) :
          skipGap (codePoints (between ++
              ((',' :: between).intercalate ((next :: others).map printed) ++ text))) =
            codePoints ((',' :: between).intercalate ((next :: others).map printed) ++ text) := by
        rw [← begins, List.append_assoc]
        exact skipGap_append gap ((readsOthers next List.mem_cons_self).leaves _)
      simp only [List.map_cons, List.intercalate_cons_cons, List.append_assoc, List.cons_append,
        List.length_append, List.length_cons] at enough skipped ⊢
      rw [(reads item List.mem_cons_self).onward read (by omega) (separated _), skipped]
      have goesOn := inductionHypothesis readsOthers more (given item :: read)
        (by simp only [List.map_cons]; omega)
      rw [List.map_cons, List.map_cons] at goesOn
      rw [goesOn, List.reverse_cons, List.append_assoc, List.singleton_append]

/-- A value that is read back is read as an item of a list. -/
theorem readsItem_of_readsBack
    {layout : Layout}
    {item : Value}
    (readsBack : ReadsBack (print layout item).toList item) :
    ReadsItem readItems (fun known => (print layout known).toList) id ']' .list item where
  leaves := readsBack.leaves
  last read enough ended := by
    rw [readItems, readsBack.read _ _ enough]
    simp only [ended, codePoints_cons, id]
  onward read enough separated := by
    rw [readItems, readsBack.read _ _ enough]
    simp only [separated, codePoints_cons, id]

/-- A field as the reader keeps it, with its name given by code points. -/
def pointedField (field : String × Value) : List CodePoint × Value :=
  (codePoints field.1.toList, field.2)

/-- A field whose value is read back is read as a field of a record. -/
theorem readsItem_printedField
    {layout : Layout}
    {field : String × Value}
    (readsBack : ReadsBack (print layout field.2).toList field.2) :
    ReadsItem readFields (fun known => (printedField layout known).toList) pointedField '\x7d'
      .ofFields field := by
  obtain ⟨name, value⟩ := field
  have shape (rest : List Char) : (printedField layout (name, value)).toList ++ rest =
      '"' :: (name.toList.flatMap escapeCharacter ++
        '"' :: ':' :: ([' '] ++ ((print layout value).toList ++ rest))) := by
    rw [printedField, String.toList_append, String.toList_append, List.append_assoc,
      List.append_assoc, toList_quotedText_append]
    rfl
  have colon (text : List Char) :
      skipGap (.character ':' :: codePoints text) = .character ':' :: codePoints text :=
    skipGap_of_leaves (Leaves.cons_iff.mpr (show isGap ':' = false by decide))
  have space (rest : List Char) :
      skipGap (codePoints ([' '] ++ ((print layout value).toList ++ rest))) =
        codePoints ((print layout value).toList ++ rest) :=
    skipGap_append (by decide) (readsBack.leaves rest)
  have shorter {fuel : Nat}
      (enough : (printedField layout (name, value)).toList.length ≤ fuel) :
      (print layout value).toList.length ≤ fuel := by
    rw [printedField, String.toList_append, List.length_append] at enough
    exact (Nat.le_add_left _ _).trans enough
  refine ⟨fun rest => ?_, fun read enough ended => ?_, fun read enough separated => ?_⟩
  · rw [shape]
    exact Leaves.cons_iff.mpr (by decide)
  · rw [shape, codePoints_cons, readFields, readText_escaped]
    simp only [List.reverse_nil, List.nil_append, codePoints_cons, colon, space,
      readsBack.read _ _ (shorter enough), ended, pointedField]
  · rw [shape, codePoints_cons, readFields, readText_escaped]
    simp only [List.reverse_nil, List.nil_append, codePoints_cons, colon, space,
      readsBack.read _ _ (shorter enough), separated, pointedField]

/-! Values. -/

/-- A quoted text is read back. -/
theorem readsBack_text (content : String) :
    ReadsBack (quotedText content).toList (.text content) := by
  refine .of_step ⟨'"', by decide, _, String.toList_ofList⟩ fun fuel rest _ => ?_
  rw [toList_quotedText_append, codePoints_cons, readValue, readText_escaped]
  simp only [List.reverse_nil, List.nil_append, Value.ofCodePoints_codePoints,
    String.ofList_toList]

/-- A container with items: behind its opening character and a gap, the loop reads all of it. -/
theorem loop_enclose
    {loop : Nat → List β → List CodePoint → Reading Value}
    {printed : α → String}
    {given : α → β}
    {opening closing : String}
    {first last : Char}
    {finish : List β → Value}
    {item : α}
    {rest : List α}
    (layout : Layout)
    (opens : opening.toList = [first])
    (closes : closing.toList = [last])
    (notGap : isGap last = false)
    (reads : ∀ known ∈ item :: rest,
      ReadsItem loop (fun known => (printed known).toList) given last finish known)
    (ending : List Char)
    (fuel : Nat)
    (enough : (layout.enclose opening closing ((item :: rest).map printed)).toList.length ≤
      fuel + 1) :
    ∃ following more,
      (layout.enclose opening closing ((item :: rest).map printed)).toList ++ ending =
          first :: following ∧
        skipGap (codePoints following) = codePoints ((printed item).toList ++ more) ∧
        loop fuel [] (skipGap (codePoints following)) =
          .ok (finish ((item :: rest).map given), codePoints ending) := by
  obtain ⟨before, between, behind, gapBefore, gapBetween, gapBehind, shape⟩ :=
    layout.exists_gaps opening closing printed (List.cons_ne_nil item rest)
  obtain ⟨others, begins⟩ :=
    prefix_intercalate (',' :: between) (fun known => (printed known).toList) item rest
  rw [opens, closes, ← begins] at shape
  have skipped :
      skipGap (codePoints
          (before ++ ((printed item).toList ++ (others ++ (behind ++ last :: ending))))) =
        codePoints ((printed item).toList ++ (others ++ (behind ++ last :: ending))) :=
    skipGap_append gapBefore ((reads item List.mem_cons_self).leaves _)
  have short : ((',' :: between).intercalate
      ((item :: rest).map fun known => (printed known).toList)).length < fuel := by
    rw [shape] at enough
    rw [← begins]
    simp only [List.length_append, List.length_singleton] at enough ⊢
    omega
  refine ⟨before ++ ((printed item).toList ++ (others ++ (behind ++ last :: ending))), _, ?_,
    skipped, ?_⟩
  · rw [shape]
    simp only [List.cons_append, List.nil_append, List.append_assoc]
  · have looped := loop_intercalate reads gapBetween gapBehind notGap ending fuel [] short
    rwa [← begins, List.append_assoc, ← skipped] at looped

/-- A list is read as a list when its items are read back. -/
theorem readsBack_list
    {layout : Layout}
    {items : List Value}
    (readsBack : ∀ item ∈ items, ReadsBack (print layout.deeper item).toList item) :
    ReadsBack (print layout (.list items)).toList (.list items) := by
  rw [print, printItems_eq_map]
  cases items with
  | nil =>
      have shape : ("[" ++ "]").toList = ['[', ']'] := by decide
      rw [List.map_nil, Layout.enclose_nil, shape]
      exact .of_step ⟨'[', by decide, [']'], rfl⟩ fun fuel rest _ => rfl
  | cons item rest =>
      have opens : "[".toList = ['['] := rfl
      have closes : "]".toList = [']'] := rfl
      have enclosed := loop_enclose layout opens closes (by decide) fun known member =>
        readsItem_of_readsBack (readsBack known member)
      refine .of_step ?_ fun fuel ending enough => ?_
      · obtain ⟨following, _, shape, _⟩ := enclosed [] _ (Nat.le_succ _)
        rw [List.append_nil] at shape
        exact ⟨'[', by decide, following, shape⟩
      · obtain ⟨following, others, shape, skipped, looped⟩ := enclosed ending fuel enough
        obtain ⟨first, isFirst, more, begins⟩ := (readsBack item List.mem_cons_self).begins
        rw [List.map_id] at looped
        rw [shape, codePoints_cons, readValue]
        split
        case h_1 closed =>
          rw [skipped, begins] at closed
          cases closed
          exact absurd isFirst (by decide)
        case h_2 => exact looped

/-- A record is read as a record when the values of its fields are read back. -/
theorem readsBack_record
    {layout : Layout}
    {fields : Record}
    (distinct : fields.names.Nodup)
    (readsBack : ∀ field ∈ fields, ReadsBack (print layout.deeper field.2).toList field.2) :
    ReadsBack (print layout (.record fields)).toList (.record fields) := by
  rw [print, printFields_eq_map]
  cases fields with
  | nil =>
      have shape : ("\x7b" ++ "\x7d").toList = ['\x7b', '\x7d'] := by decide
      rw [List.map_nil, Layout.enclose_nil, shape]
      exact .of_step ⟨'\x7b', by decide, ['\x7d'], rfl⟩ fun fuel rest _ => rfl
  | cons field rest =>
      have opens : "\x7b".toList = ['\x7b'] := rfl
      have closes : "\x7d".toList = ['\x7d'] := rfl
      have enclosed := loop_enclose layout opens closes (by decide) fun known member =>
        readsItem_printedField (readsBack known member)
      refine .of_step ?_ fun fuel ending enough => ?_
      · obtain ⟨following, _, shape, _⟩ := enclosed [] _ (Nat.le_succ _)
        rw [List.append_nil] at shape
        exact ⟨'\x7b', by decide, following, shape⟩
      · obtain ⟨following, others, shape, skipped, looped⟩ := enclosed ending fuel enough
        have named : Value.ofFields ((field :: rest).map pointedField) =
            .record (field :: rest) :=
          (Value.ofFields_codePoints _).trans
            (congrArg Value.record (Record.ofFields_of_nodup distinct))
        rw [named] at looped
        rw [shape, codePoints_cons, readValue]
        split
        case h_1 closed =>
          rw [skipped, printedField, quotedText] at closed
          simp at closed
        case h_2 => exact looped

/-- A printed value without numbers is read as the value. -/
theorem readsBack_print
    {value : Value}
    (textual : value.Textual)
    (layout : Layout) :
    ReadsBack (print layout value).toList value := by
  induction textual generalizing layout with
  | null =>
      have shape : (print layout .null).toList = ['n', 'u', 'l', 'l'] := by
        rw [print]
        decide
      rw [shape]
      exact .of_step ⟨'n', by decide, _, rfl⟩ fun fuel rest _ => rfl
  | boolean flag =>
      cases flag with
      | true =>
          have shape : (print layout (.boolean true)).toList = ['t', 'r', 'u', 'e'] := by
            rw [print]
            decide
          rw [shape]
          exact .of_step ⟨'t', by decide, _, rfl⟩ fun fuel rest _ => rfl
      | false =>
          have shape : (print layout (.boolean false)).toList = ['f', 'a', 'l', 's', 'e'] := by
            rw [print]
            decide
          rw [shape]
          exact .of_step ⟨'f', by decide, _, rfl⟩ fun fuel rest _ => rfl
  | text content =>
      rw [print]
      exact readsBack_text content
  | list textual inductionHypothesis =>
      exact readsBack_list fun item member => inductionHypothesis item member layout.deeper
  | record distinct textual inductionHypothesis =>
      exact readsBack_record distinct fun field member =>
        inductionHypothesis field member layout.deeper

/-- A document of what is read back is read as its value. -/
theorem readDocument_of_readsBack
    {printed ending : List Char}
    {value : Value}
    (readsBack : ReadsBack printed value)
    (gap : Within isGap ending) :
    readDocument (codePoints (printed ++ ending)) = .ok value := by
  have skipped : skipGap (codePoints (printed ++ ending)) = codePoints (printed ++ ending) :=
    skipGap_of_leaves (readsBack.leaves ending)
  have nothingLeft : skipGap (codePoints ending) = [] := by
    simpa using skipGap_append gap Leaves.nil
  have enough : printed.length ≤ (codePoints (printed ++ ending)).length + 1 := by
    rw [codePoints, List.length_map, List.length_append]
    omega
  rw [readDocument, skipped, readsBack.read _ _ enough]
  simp only [nothingLeft]

/-- A document of a printed value, with at most a gap behind it, is read as the value. -/
theorem read_print
    {value : Value}
    (textual : value.Textual)
    (layout : Layout)
    {ending : String}
    (gap : Within isGap ending.toList) :
    read (print layout value ++ ending) = .ok value := by
  have readsBack := readsBack_print textual layout
  obtain ⟨first, isFirst, more, begins⟩ := readsBack.begins
  have noMark : (print layout value ++ ending).toList.head? ≠ some '\uFEFF' := by
    rw [String.toList_append, begins, List.cons_append, List.head?_cons]
    rintro ⟨rfl⟩
    exact absurd isFirst (by decide)
  rw [read, if_neg noMark, readPoints, String.toList_append,
    readDocument_of_readsBack readsBack gap]
  rfl

end Json

end ExpertAdvisor

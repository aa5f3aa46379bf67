import HtcLeo.Grid.Compact
import HtcLeo.Word.Flags

/-!
# The mode table of the console splitter

The splitter is one text console in front of several.  A mode of the splitter is a row of
a table: it has a column for each console, with the number that the mode has there, and
the first console's number leads to the size.  When a console comes, the modes that it
does not have are taken out; when one goes, the table is made anew.

The table is one array whose rows get longer when the list of consoles grows.  Memory can
always be allocated.
-/

namespace HtcLeo.ConSplitter

open Grid

universe u

def CONSOLE_SPLITTER_ALLOC_UNIT : Nat :=
  32

/-- Columns and rows. -/
abbrev TextSize :=
  Nat × Nat

/-- `EFI_SIMPLE_TEXT_OUTPUT_MODE`. -/
structure TextOutMode where
  maxMode : Nat
  mode : Int
  attr : U32
  cursorColumn : Nat
  cursorRow : Nat
  cursorVisible : Bool
  deriving DecidableEq, Repr

/-- `TEXT_OUT_SPLITTER_PRIVATE_DATA`; the table is `none` for a null pointer. -/
structure TextOutSplitter (δ : Type u) where
  textOutMode : TextOutMode
  textOutList : List δ
  textOutListCount : Nat
  currentNumberOfConsoles : Nat
  textOutQueryData : Nat → TextSize
  textOutModeMap : Option (Nat → Int)

/-- `TextOutSetMode`. -/
def TextOutMode.set (textOutMode : TextOutMode) (modeNumber : Int) : TextOutMode :=
  { textOutMode with mode := modeNumber, cursorColumn := 0, cursorRow := 0, cursorVisible := true }

/-- The data of `mConOut` after `ConSplitterTextOutConstructor`. -/
def TextOutSplitter.constructed (δ : Type u) : TextOutSplitter δ where
  textOutMode := ⟨1, 0, 0, 0, 0, true⟩
  textOutList := []
  textOutListCount := CONSOLE_SPLITTER_ALLOC_UNIT
  currentNumberOfConsoles := 0
  textOutQueryData := Function.update (fun _ => (0, 0)) 0 (40, 12)
  textOutModeMap := none

/-! ## Intersection -/

/-- The result of `ConSplitterGetIntersection`. -/
structure Intersection where
  map : Nat → Int
  maxMode : Nat
  mode : Int

/-- The loop of `ConSplitterGetIntersection`: so many rows are left from `index` on, and the
next one that stays goes to `next`.  The new map may be a column of the table itself. -/
def intersectionLoop (step : Nat) (newMap : (Nat → Int) → Nat → Int) (currentMode : Int) :
    Nat → Nat → Nat → Intersection → Intersection
  | 0, _, _, result => result
  | left + 1, index, next, ⟨map, maxMode, mode⟩ =>
      if newMap map index = -1 then
        intersectionLoop step newMap currentMode left (index + 1) next
          ⟨map, maxMode - 1,
            if index = currentMode then -1 else if index < currentMode then mode - 1 else mode⟩
      else
        intersectionLoop step newMap currentMode left (index + 1) (next + 1)
          ⟨if next ≠ index then copyRow step next index map else map, maxMode, mode⟩

/-- The modes 0 and 1 are not looked at. -/
def getIntersection (step : Nat) (newMap : (Nat → Int) → Nat → Int) (map : Nat → Int)
    (maxMode : Nat) (mode : Int) : Intersection :=
  intersectionLoop step newMap mode (maxMode - 2) 2 2 ⟨map, maxMode, mode⟩

section Intersect

variable {step index : Nat} {newMap : (Nat → Int) → Nat → Int} {map : Nat → Int} {mode : Int}

/-- The rows that stay in an intersection. -/
def Kept (newMap : (Nat → Int) → Nat → Int) (map : Nat → Int) (row : Nat) : Prop :=
  row < 2 ∨ newMap map row ≠ -1

instance (newMap : (Nat → Int) → Nat → Int) (map : Nat → Int) :
    DecidablePred (Kept newMap map) :=
  fun _ => inferInstanceAs (Decidable (_ ∨ _))

/-- Where a mode is after the first `index` rows have been looked at: its row moves with the
others, and there is no current mode if its row is taken out. -/
def tracked (kept : Nat → Prop) [DecidablePred kept] (index : Nat) (mode : Int) : Int :=
  if mode < 0 then mode
  else if mode.toNat < index then
    if kept mode.toNat then Nat.count kept mode.toNat else -1
  else mode - (index - Nat.count kept index : Nat)

section Tracked

variable {kept : Nat → Prop} [DecidablePred kept]

theorem tracked_keep (stays : kept index) (mode : Int) :
    tracked kept (index + 1) mode = tracked kept index mode := by
  have few : Nat.count kept index ≤ index := Nat.count_le _
  simp only [tracked, Nat.count_succ, if_pos stays]
  split
  · rfl
  · rcases Nat.lt_trichotomy mode.toNat index with before | same | after
    · rw [if_pos before, if_pos (Nat.lt_succ_of_lt before)]
    · have inside : mode.toNat < index + 1 := by omega
      have outside : ¬ mode.toNat < index := by omega
      rw [if_pos inside, if_neg outside, same, if_pos stays]
      omega
    · have outside : ¬ mode.toNat < index + 1 := by omega
      rw [if_neg outside, if_neg (Nat.not_lt.mpr (Nat.le_of_lt after))]
      omega

theorem tracked_drop (gone : ¬ kept index) (mode : Int) :
    tracked kept (index + 1) mode =
      if index = mode then -1
      else if index < mode then tracked kept index mode - 1 else tracked kept index mode := by
  have few : Nat.count kept index ≤ index := Nat.count_le _
  simp only [tracked, Nat.count_succ, if_neg gone, Nat.add_zero]
  by_cases negative : mode < 0
  · have notHere : ¬ (index : Int) = mode := by omega
    have notBefore : ¬ (index : Int) < mode := by omega
    simp only [if_pos negative, if_neg notHere, if_neg notBefore]
  · simp only [if_neg negative]
    rcases Nat.lt_trichotomy mode.toNat index with before | same | after
    · have notHere : ¬ (index : Int) = mode := by omega
      have notBefore : ¬ (index : Int) < mode := by omega
      simp only [if_pos before, if_pos (Nat.lt_succ_of_lt before), if_neg notHere,
        if_neg notBefore]
    · have here : (index : Int) = mode := by omega
      have inside : mode.toNat < index + 1 := by omega
      rw [if_pos here, if_pos inside, same, if_neg gone]
    · have notHere : ¬ (index : Int) = mode := by omega
      have before : (index : Int) < mode := by omega
      have outside : ¬ mode.toNat < index + 1 := by omega
      have notInside : ¬ mode.toNat < index := by omega
      simp only [if_neg notHere, if_pos before, if_neg outside, if_neg notInside]
      omega

/-- No row of the first ones is taken out. -/
theorem tracked_of_forall (first : ∀ row < index, kept row) (mode : Int) :
    tracked kept index mode = mode := by
  have all : Nat.count kept index = index := Nat.count_of_forall first
  rw [tracked, all, Nat.sub_self]
  split
  · rfl
  · split
    · next inside =>
        have before : ∀ row < mode.toNat, kept row := fun row low => first row (by omega)
        rw [if_pos (first _ inside), Nat.count_of_forall before]
        omega
    · omega

end Tracked

theorem intersectionLoop_spec (rowWise : RowWise step newMap) (rows left : Nat)
    (result : Intersection) (first : 2 ≤ index)
    (pass : Compacting step index (Kept newMap map) map result.map)
    (counted : result.maxMode = rows - (index - Nat.count (Kept newMap map) index))
    (followed : result.mode = tracked (Kept newMap map) index mode) :
    Compacting step (index + left) (Kept newMap map) map
        (intersectionLoop step newMap mode left index (Nat.count (Kept newMap map) index)
          result).map ∧
      (intersectionLoop step newMap mode left index (Nat.count (Kept newMap map) index)
          result).maxMode =
        rows - (index + left - Nat.count (Kept newMap map) (index + left)) ∧
      (intersectionLoop step newMap mode left index (Nat.count (Kept newMap map) index)
          result).mode =
        tracked (Kept newMap map) (index + left) mode := by
  induction left generalizing index result with
  | zero => exact ⟨pass, counted, followed⟩
  | succ left ih =>
      obtain ⟨now, maxMode, current⟩ := result
      have few : Nat.count (Kept newMap map) index ≤ index := Nat.count_le _
      have further : index + (left + 1) = index + 1 + left := by omega
      have asked : newMap now index = newMap map index := pass.asks rowWise
      rw [further, intersectionLoop, asked]
      split
      · next gone =>
          have gone : ¬ Kept newMap map index := by
            rintro (low | stays)
            · omega
            · exact stays gone
          have count : Nat.count (Kept newMap map) (index + 1) =
              Nat.count (Kept newMap map) index := by
            rw [Nat.count_succ, if_neg gone, Nat.add_zero]
          rw [← count]
          refine ih _ (by omega) (pass.drop gone) ?_ ?_
          · simp only [count] at counted ⊢
            omega
          · rw [tracked_drop gone, ← followed]
      · next stays =>
          have stays : Kept newMap map index := .inr stays
          have count : Nat.count (Kept newMap map) (index + 1) =
              Nat.count (Kept newMap map) index + 1 := by
            rw [Nat.count_succ, if_pos stays]
          rw [← count]
          refine ih _ (by omega) (pass.keep stays) ?_ ?_
          · simp only [count] at counted ⊢
            omega
          · rw [tracked_keep stays]
            exact followed

/-- The intersection takes out the rows that are not in the new map, and the current mode goes
where its row goes. -/
theorem getIntersection_spec (rowWise : RowWise step newMap) (map : Nat → Int) {maxMode : Nat}
    (reserved : 2 ≤ maxMode) (mode : Int) :
    Compacted step maxMode (Kept newMap map) map
        (getIntersection step newMap map maxMode mode).map ∧
      (getIntersection step newMap map maxMode mode).maxMode =
        Nat.count (Kept newMap map) maxMode ∧
      (getIntersection step newMap map maxMode mode).mode =
        tracked (Kept newMap map) maxMode mode := by
  have first : ∀ row < 2, Kept newMap map row := fun row low => .inl low
  have two : Nat.count (Kept newMap map) 2 = 2 := Nat.count_of_forall first
  have all : 2 + (maxMode - 2) = maxMode := Nat.add_sub_cancel' reserved
  have ended := intersectionLoop_spec rowWise maxMode (maxMode - 2) ⟨map, maxMode, mode⟩
    (Nat.le_refl 2) (Compacting.start first) (by rw [two]; rfl) (tracked_of_forall first mode).symm
  rw [two, all] at ended
  have few : Nat.count (Kept newMap map) maxMode ≤ maxMode := Nat.count_le _
  exact ⟨ended.1.moved, ended.2.1.trans (Nat.sub_sub_self few), ended.2.2⟩

end Intersect

namespace TextOutSplitter

variable {δ : Type u}

/-- The intersection of the table with another map. -/
def restrict (newMap : (Nat → Int) → Nat → Int) (splitter : TextOutSplitter δ) :
    TextOutSplitter δ :=
  match splitter.textOutModeMap with
  | none => splitter
  | some map =>
      let result := getIntersection splitter.textOutListCount newMap map
        splitter.textOutMode.maxMode splitter.textOutMode.mode
      { splitter with
        textOutModeMap := some result.map
        textOutMode :=
          { splitter.textOutMode with maxMode := result.maxMode, mode := result.mode } }

/-! ## Consoles come and go -/

/-- The new table of `ConSplitterGrowMapTable`, with the entries of the consoles that are
there.  The rows of the old one are shorter. -/
def grownMap (step numberOfConsoles maxMode : Nat) : Option (Nat → Int) → Nat → Int
  | none => fun _ => -1
  | some old =>
      (List.range maxMode).foldl
        (fun map index => copyEntries numberOfConsoles (index * step)
          (index * (step - CONSOLE_SPLITTER_ALLOC_UNIT)) old map) fun _ => -1

/-- `ConSplitterGrowMapTable`. -/
def growMapTable (splitter : TextOutSplitter δ) : TextOutSplitter δ :=
  { splitter with
    textOutModeMap := some (grownMap splitter.textOutListCount splitter.currentNumberOfConsoles
      splitter.textOutMode.maxMode splitter.textOutModeMap) }

/-- More places in the list of consoles, and the table for it. -/
def grow (splitter : TextOutSplitter δ) : TextOutSplitter δ :=
  { splitter with
    textOutListCount := splitter.textOutListCount + CONSOLE_SPLITTER_ALLOC_UNIT }.growMapTable

/-- The list of consoles grows until there is a place in it. -/
def growTextOutList (splitter : TextOutSplitter δ) : TextOutSplitter δ :=
  if splitter.textOutListCount ≤ splitter.currentNumberOfConsoles then splitter.grow.growTextOutList
  else splitter
termination_by splitter.currentNumberOfConsoles + 1 - splitter.textOutListCount
decreasing_by
  simp only [grow, growMapTable, CONSOLE_SPLITTER_ALLOC_UNIT]
  omega

/-- The columns and rows of a mode, by the table if there is one. -/
def modeSize (splitter : TextOutSplitter δ) (modeNumber : Nat) : TextSize :=
  match splitter.textOutModeMap with
  | some map => splitter.textOutQueryData (map (splitter.textOutListCount * modeNumber)).toNat
  | none => splitter.textOutQueryData modeNumber

/-- `ConSplitterTextOutQueryMode`: the size, or nothing for `EFI_UNSUPPORTED`.  A number beyond
the range of `INT32` is beyond the modes. -/
def queryMode (splitter : TextOutSplitter δ) (modeNumber : Nat) : Option TextSize :=
  if splitter.textOutMode.maxMode ≤ modeNumber then none
  else if splitter.modeSize modeNumber = (0, 0) then none
  else some (splitter.modeSize modeNumber)

/-- The number of a mode on a console of the list, as `ConSplitterTextOutSetMode` takes it from
the table. -/
def numberOn (splitter : TextOutSplitter δ) (modeNumber index : Nat) : Option Int :=
  splitter.textOutModeMap.map fun map => map (splitter.textOutListCount * modeNumber + index)

section Modes

variable (modes : δ → List (Option TextSize))

/-- What `QueryMode` leaves in the data of a mode of the first console. -/
def storeSize (mode : Nat) (reported : Option TextSize) (queryData : Nat → TextSize) :
    Nat → TextSize :=
  match reported with
  | some size => Function.update queryData mode size
  | none => if mode = 1 then Function.update queryData mode (0, 0) else queryData

/-- The modes of the first console: what `QueryMode` reports goes to the data of the mode, and
the number of the mode to the first place of its row. -/
def addModes (step : Nat) : List (Option TextSize) → Nat → (Nat → TextSize) × (Nat → Int) →
    (Nat → TextSize) × (Nat → Int)
  | [], _, data => data
  | reported :: rest, mode, (queryData, map) =>
      addModes step rest (mode + 1)
        (storeSize mode reported queryData, Function.update map (mode * step) mode)

/-- `ConSplitterAddOutputMode`. -/
def addOutputMode (splitter : TextOutSplitter δ) (textOut : δ) : TextOutSplitter δ :=
  let grown := { splitter with
    textOutMode := { splitter.textOutMode with maxMode := (modes textOut).length } }.growMapTable
  match grown.textOutModeMap with
  | none => grown
  | some map =>
      let data := addModes grown.textOutListCount (modes textOut) 0 (grown.textOutQueryData, map)
      { grown with textOutQueryData := data.1, textOutModeMap := some data.2 }

/-- The first mode of a size. -/
def findMode (step maxMode : Nat) (size : TextSize) (queryData : Nat → TextSize)
    (map : Nat → Int) : Option Nat :=
  (List.range maxMode).find? fun index => queryData (map (index * step)).toNat = size

/-- A mode of another console goes to the first row of its size. -/
def enterMode (step maxMode column mode : Nat) (size : TextSize) (queryData : Nat → TextSize)
    (map : Nat → Int) : Nat → Int :=
  match findMode step maxMode size queryData map with
  | none => map
  | some index => Function.update map (index * step + column) mode

/-- The modes of another console go to the rows of the same size.  A mode 1 that cannot be
queried makes the mode 1 of all consoles unusable. -/
def syncModes (step maxMode column : Nat) : List (Option TextSize) → Nat →
    (Nat → TextSize) × (Nat → Int) → (Nat → TextSize) × (Nat → Int)
  | [], _, data => data
  | none :: rest, mode, (queryData, map) =>
      syncModes step maxMode column rest (mode + 1)
        (if mode = 1 then
          (Function.update queryData mode (0, 0), Function.update map (column + step) mode)
        else (queryData, map))
  | some size :: rest, mode, (queryData, map) =>
      syncModes step maxMode column rest (mode + 1)
        (queryData, enterMode step maxMode column mode size queryData map)

/-- `ConSplitterSyncOutputMode`. -/
def syncOutputMode (splitter : TextOutSplitter δ) (textOut : δ) : TextOutSplitter δ :=
  match splitter.textOutModeMap with
  | none => splitter
  | some map =>
      let step := splitter.textOutListCount
      let column := splitter.currentNumberOfConsoles
      let data := syncModes step splitter.textOutMode.maxMode column (modes textOut) 0
        (splitter.textOutQueryData, map)
      { splitter with textOutQueryData := data.1, textOutModeMap := some data.2 }.restrict
        fun map index => map (index * step + column)

/-- The part of `ConSplitterTextOutAddDevice` that is about the table. -/
def attach (splitter : TextOutSplitter δ) (textOut : δ) : TextOutSplitter δ :=
  let grown := splitter.growTextOutList
  let listed := { grown with textOutList := grown.textOutList ++ [textOut] }
  let added :=
    if splitter.currentNumberOfConsoles = 0 then listed.addOutputMode modes textOut
    else listed.syncOutputMode modes textOut
  { added with currentNumberOfConsoles := splitter.currentNumberOfConsoles + 1 }

/-- The next console of a table that is made anew. -/
def attachNext (splitter : TextOutSplitter δ) (textOut : δ) : TextOutSplitter δ :=
  let synced := splitter.syncOutputMode modes textOut
  { synced with currentNumberOfConsoles := synced.currentNumberOfConsoles + 1 }

/-- A new table for the first of the consoles that are left. -/
def rebuildFirst (splitter : TextOutSplitter δ) (first : δ) (rest : List δ) : TextOutSplitter δ :=
  let cleared := { splitter with
    textOutList := first :: rest
    textOutQueryData := fun _ => (0, 0)
    textOutModeMap := none }
  { cleared.addOutputMode modes first with currentNumberOfConsoles := 1 }

/-- The mode data once more from the first console on, in the order of the list. -/
def rebuild (splitter : TextOutSplitter δ) (first : δ) (rest : List δ) : TextOutSplitter δ :=
  rest.foldl (attachNext modes) (splitter.rebuildFirst modes first rest)

/-- The part of `ConSplitterTextOutDeleteDevice` that is about the table, for the place of the
console in the list. -/
def detach (splitter : TextOutSplitter δ) (index : Nat) : TextOutSplitter δ :=
  if splitter.currentNumberOfConsoles ≤ index then splitter
  else
    match splitter.textOutList.eraseIdx index with
    | [] =>
        { splitter with
          textOutList := []
          currentNumberOfConsoles := 0
          textOutQueryData := Function.update splitter.textOutQueryData 0 (40, 12)
          textOutMode := { splitter.textOutMode with maxMode := 1 }.set 0 }
    | first :: rest => splitter.rebuild modes first rest

end Modes

end TextOutSplitter

end HtcLeo.ConSplitter

import MacroLoader.BronzeConcurrency
import MacroLoader.GoldRetention
import MacroLoader.ProgramParts
import MacroLoader.SilverRepository

/-!
# The medallion lake

Bronze, Silver and Gold are files of one lake, with the inventory next to them. Each layer
has been modelled on its own state; here these states are parts of one, so that a command of
the pipeline is a program on the lake which runs the programs of the layers, each on its part.
-/

/-- **The lake**, and the events that have been sent, the last one last. -/
structure MedallionLake where
  bronze : BronzeLake
  /-- The month files of Silver, by series. -/
  silver : String → MonthFiles
  gold : GoldSession
  /-- `dataset_inventory.parquet`, if there is one. -/
  inventory : Option Bytes
  events : List Json

/-- A program on the lake. -/
abbrev LakeProgram := Program MedallionLake PyError

namespace MedallionLake

/-- A lake without files. -/
def empty : MedallionLake where
  bronze := .empty
  silver _ := .empty
  gold := ⟨⟨none, fun _ => none, none, none⟩, []⟩
  inventory := none
  events := []

/-- The Bronze files. -/
def bronzePart : StatePart MedallionLake BronzeLake where
  get lake := lake.bronze
  set bronze lake := { lake with bronze := bronze }
  get_set _ _ := rfl
  set_get _ := rfl
  set_set _ _ _ := rfl

/-- The Gold files. -/
def goldPart : StatePart MedallionLake GoldSession where
  get lake := lake.gold
  set gold lake := { lake with gold := gold }
  get_set _ _ := rfl
  set_get _ := rfl
  set_set _ _ _ := rfl

/-- The Silver files of a series, next to the Bronze files. -/
def seriesPart (seriesId : String) : StatePart MedallionLake SeriesLake where
  get lake := ⟨lake.bronze, lake.silver seriesId⟩
  set part lake :=
    { lake with
      bronze := part.bronze
      silver := Function.update lake.silver seriesId part.silver }
  get_set _ _ := by simp only [Function.update_self]
  set_get _ := by simp only [Function.update_eq_self]
  set_set _ _ _ := by simp only [Function.update_idem]

/-- The lake after an event has been sent. -/
def send (event : Json) (lake : MedallionLake) : MedallionLake :=
  { lake with events := lake.events ++ [event] }

section Fields

variable (lake : MedallionLake) (event : Json) (gold : GoldSession) (bronze : BronzeLake)

@[simp] theorem send_bronze : (lake.send event).bronze = lake.bronze := rfl

@[simp] theorem send_silver : (lake.send event).silver = lake.silver := rfl

@[simp] theorem send_gold : (lake.send event).gold = lake.gold := rfl

@[simp] theorem send_inventory : (lake.send event).inventory = lake.inventory := rfl

@[simp] theorem send_events : (lake.send event).events = lake.events ++ [event] := rfl

end Fields

end MedallionLake

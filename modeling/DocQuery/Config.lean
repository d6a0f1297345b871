/-!
This module contains the size limits of reads and the configuration that all collections share.
-/

namespace DocQuery

structure Limits where
  maxSize : UInt64 := 1000
  defaultSize : UInt64 := 20
deriving DecidableEq

namespace Limits

def clamp (limits : Limits) (size : UInt64) : UInt64 :=
  -- zero asks for the default
  let most := max limits.maxSize 1
  if size = 0 then min (max limits.defaultSize 1) most else min size most

def clampLimit (limits : Limits) (limit : UInt64) : UInt64 :=
  -- zero asks for the maximum
  if limit = 0 then limits.maxSize else min limit limits.maxSize

end Limits

structure Config where
  limits : Limits := {}
  batchSize : UInt64 := 1000
deriving DecidableEq

structure Settings where
  maxSize : Option UInt64 := none
  defaultSize : Option UInt64 := none
  batchSize : Option UInt64 := none

namespace Settings

def orDefault (setting : Option UInt64) (default : UInt64) : UInt64 :=
  (setting.filter (· ≠ 0)).getD default

def build (settings : Settings) : Config where
  limits := {
    maxSize := orDefault settings.maxSize 1000
    defaultSize := orDefault settings.defaultSize 20
  }
  batchSize := orDefault settings.batchSize 1000

end Settings
end DocQuery

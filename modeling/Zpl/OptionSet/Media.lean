import Zpl.OptionSet.Basic

namespace Zpl

inductive PrintMode where
  | tearOff
  | peelOff
  | rewind
  | applicator
  | cutter
  | delayedCut
  deriving DecidableEq

namespace PrintMode

def name : PrintMode → String
  | tearOff    => "tear_off"
  | peelOff    => "peel_off"
  | rewind     => "rewind"
  | applicator => "applicator"
  | cutter     => "cutter"
  | delayedCut => "delayed_cut"

def code : PrintMode → String
  | tearOff    => "T"
  | peelOff    => "P"
  | rewind     => "R"
  | applicator => "A"
  | cutter     => "C"
  | delayedCut => "D"

instance : OptionSet PrintMode where
  all := [.tearOff, .peelOff, .rewind, .applicator, .cutter, .delayedCut]
  mem_all x := by cases x <;> simp
  name := name
  code := code
  nodup_codes := by decide

end PrintMode

inductive PrintSpeed where
  | ips1 | ips2 | ips3 | ips4 | ips5 | ips6 | ips7 | ips8 | ips9 | ips10 | ips11 | ips12
  | ips13 | ips14
  deriving DecidableEq

namespace PrintSpeed

def name : PrintSpeed → String
  | ips1  => "ips1"
  | ips2  => "ips2"
  | ips3  => "ips3"
  | ips4  => "ips4"
  | ips5  => "ips5"
  | ips6  => "ips6"
  | ips7  => "ips7"
  | ips8  => "ips8"
  | ips9  => "ips9"
  | ips10 => "ips10"
  | ips11 => "ips11"
  | ips12 => "ips12"
  | ips13 => "ips13"
  | ips14 => "ips14"

def code : PrintSpeed → String
  | ips1  => "1"
  | ips2  => "2"
  | ips3  => "3"
  | ips4  => "4"
  | ips5  => "5"
  | ips6  => "6"
  | ips7  => "7"
  | ips8  => "8"
  | ips9  => "9"
  | ips10 => "10"
  | ips11 => "11"
  | ips12 => "12"
  | ips13 => "13"
  | ips14 => "14"

instance : OptionSet PrintSpeed where
  all :=
    [.ips1, .ips2, .ips3, .ips4, .ips5, .ips6, .ips7, .ips8, .ips9, .ips10, .ips11, .ips12,
     .ips13, .ips14]
  mem_all x := by cases x <;> simp
  name := name
  code := code
  nodup_codes := by decide

end PrintSpeed

inductive PreprintedLabelHandling where
  | normal
  | prepeel
  deriving DecidableEq

namespace PreprintedLabelHandling

def name : PreprintedLabelHandling → String
  | normal  => "normal"
  | prepeel => "prepeel"

def code : PreprintedLabelHandling → String
  | normal  => "N"
  | prepeel => "Y"

instance : OptionSet PreprintedLabelHandling where
  all := [.normal, .prepeel]
  mem_all x := by cases x <;> simp
  name := name
  code := code
  nodup_codes := by decide

end PreprintedLabelHandling

end Zpl

import Arboretum.Command.Report
import Arboretum.Summary
import Arboretum.Tree.Growth

/-!
The command that grows one tree and tells about it, either in a few lines or as a document with the
whole geometry.
-/

namespace Arboretum

set_option autoImplicit false

structure GenerateOptions where
  score : RawScore
  source : Chance.Source
  ruleSet : Option String
  displayName : String
  asDocument : Bool

namespace Document

def ofPoint (point : Point Float) : Document := .list [.real point.x, .real point.y]

def ofBranch (branch : Branch Float) : Document :=
  .record
    [
      ("start", ofPoint branch.start), ("end", ofPoint branch.finish),
      ("thickness", .real branch.thickness), ("level", .whole branch.level),
      ("color_key", .text branch.colorKey), ("revealed", .truth branch.revealed)
    ]

def ofLeaf (leaf : LeafSite Float) : Document :=
  .record
    [
      ("position", ofPoint leaf.position), ("size", .real leaf.size),
      ("rotation", .real leaf.rotation), ("color_key", .text leaf.colorKey),
      ("kind", .text leaf.kind.text), ("revealed", .truth leaf.revealed),
      ("opacity", .real leaf.opacity)
    ]

def fieldsOfParameters (parameters : GrowthParameters Float) : List (String × Document) :=
  [
    ("iteration_count", .whole parameters.iterationCount),
    ("base_segment_length", .real parameters.baseSegmentLength),
    ("length_decay", .real parameters.lengthDecay),
    ("thickness_decay", .real parameters.thicknessDecay),
    ("base_angle_degrees", .real parameters.baseAngleDegrees),
    ("angle_jitter_degrees", .real parameters.angleJitterDegrees),
    ("base_thickness", .real parameters.baseThickness),
    ("leaf_density_target", .whole parameters.leafDensityTarget),
    ("palette_index", .whole parameters.paletteIndex)
  ]

def fieldsOfTree (tree : Tree Float) : List (String × Document) :=
  [
    ("score", .real tree.score), ("rule_set", .text tree.ruleSet.name),
    ("parameters", .record (fieldsOfParameters tree.parameters)),
    ("branches", .list (tree.branches.map ofBranch)), ("leaves", .list (tree.leaves.map ofLeaf))
  ]

end Document

namespace GenerateOptions

def request (options : GenerateOptions) : TreeRequest where
  score := options.score
  source := options.source
  surface := none
  ruleSet := options.ruleSet.elim .configured .named
  jitter := .usual

def lines (options : GenerateOptions) (tree : Tree Float) : List String :=
  [
    (TreeSummary.ofScore tree.score options.displayName []).headline,
    "rule set: " ++ tree.ruleSet.name,
    "iterations: " ++ toString tree.parameters.iterationCount,
    "branches: " ++ toString tree.branches.length ++ " (max level " ++
      toString tree.maxLevel ++ ")",
    "leaves: " ++ toString tree.leaves.length
  ]

def run (environment : Environment) (options : GenerateOptions) : CommandRun :=
  let growth := options.request.growth environment
  CommandRun.ofGrowth .generate growth.remarks growth.outcome fun tree =>
    let output : CommandOutput :=
      if options.asDocument then .document (.record (Document.fieldsOfTree tree))
      else .lines (options.lines tree)
    ⟨[], .ok (.done output)⟩

end GenerateOptions

end Arboretum

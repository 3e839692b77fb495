/-! The configuration that an environment on GCP was created with. Destroying the environment
needs the same one, so that every resource in the recorded state is known. -/
namespace Dismantle.Terraform

/-- A configuration file holds blocks; a block holds groups of settings and further blocks. -/
inductive Item where
  | settings (group : List (String × String))
  | block (head : String) (items : List Item)

def blanks (n : Nat) : String := .ofList (List.replicate n ' ')

/-- Settings in a group have their equals signs in one column. -/
def settingLines (depth : Nat) (group : List (String × String)) : List String :=
  let width := (group.map (·.1.length)).foldl max 0
  group.map fun s => blanks (2 * depth) ++ s.1 ++ blanks (width - s.1.length) ++ " = " ++ s.2

mutual
def Item.lines (depth : Nat) : Item → List String
  | .settings group => settingLines depth group
  | .block head items =>
    (blanks (2 * depth) ++ head ++ " \x7b") :: Item.allLines (depth + 1) items
      ++ [blanks (2 * depth) ++ "\x7d"]
/-- Items have an empty line between them. -/
def Item.allLines (depth : Nat) : List Item → List String
  | [] => []
  | [i] => i.lines depth
  | i :: rest => i.lines depth ++ "" :: Item.allLines depth rest
end

def quote (s : String) : String := "\"" ++ s ++ "\""

def expression (s : String) : String := "$\x7b" ++ s ++ "\x7d"

def var (name : String) : String := expression ("var." ++ name)

def quotedList (items : List String) : String := "[" ++ ", ".intercalate (items.map quote) ++ "]"

def variableBlock (name : String) : Item :=
  .block ("variable " ++ quote name) [.settings [("type", quote "string")]]

def resource (kind name : String) (items : List Item) : Item :=
  .block ("resource " ++ quote kind ++ " " ++ quote name) items

def output (name value : String) : Item :=
  .block ("output " ++ quote name) [.settings [("value", quote value)]]

def allow (protocol : String) (ports : List String) : Item :=
  let listed := if ports.isEmpty then [] else [("ports", quotedList ports)]
  .block "allow" [.settings (listed ++ [("protocol", quote protocol)])]

def networkName : String := expression "google_compute_network.bbl-network.name"

/-- A name made of the environment's and a word. -/
def envName (word : String) : String := var "env_id" ++ "-" ++ word

def environmentBlocks : List Item :=
  ["project_id", "env_id", "region", "zone", "credentials"].map variableBlock ++ [
  .block "provider \"google\"" [.settings [
    ("credentials", quote (expression ("file(" ++ quote (var "credentials") ++ ")"))),
    ("project", quote (var "project_id")),
    ("region", quote (var "region"))]],
  resource "google_compute_network" "bbl-network" [.settings [("name", quote (envName "network"))]],
  resource "google_compute_subnetwork" "bbl-subnet" [.settings [
    ("name", quote (envName "subnet")),
    ("ip_cidr_range", quote "10.0.0.0/16"),
    ("network", quote (expression "google_compute_network.bbl-network.self_link"))]],
  resource "google_compute_address" "bosh-external-ip" [.settings [
    ("name", quote (envName "bosh-external-ip"))]],
  resource "google_compute_firewall" "bosh-open" [
    .settings [("name", quote (envName "bosh-open")), ("network", quote networkName)],
    .settings [("source_ranges", quotedList ["0.0.0.0/0"])],
    allow "icmp" [],
    allow "tcp" ["22", "6868", "25555"],
    .settings [("target_tags", quotedList [envName "bosh-open"])]],
  resource "google_compute_firewall" "internal" [
    .settings [("name", quote (envName "internal")), ("network", quote networkName)],
    allow "icmp" [],
    allow "tcp" [],
    allow "udp" [],
    .settings [
      ("source_tags", quotedList [envName "bosh-open", envName "internal"]),
      ("target_tags", quotedList [envName "internal"])]],
  output "external_ip" (expression "google_compute_address.bosh-external-ip.address"),
  output "network_name" networkName,
  output "subnetwork_name" (expression "google_compute_subnetwork.bbl-subnet.name"),
  output "bosh_open_tag_name" (expression "google_compute_firewall.bosh-open.name"),
  output "internal_tag_name" (expression "google_compute_firewall.internal.name"),
  output "director_address"
    ("https://" ++ expression "google_compute_address.bosh-external-ip.address" ++ ":25555")]

def template : String := "\n".intercalate (Item.allLines 0 environmentBlocks) ++ "\n"

end Dismantle.Terraform

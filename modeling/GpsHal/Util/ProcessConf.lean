import GpsHal.Util.ConfRead
import GpsHal.Util.SplitString

/-!
# `loc_read_process_conf`

The processes to launch are described in a configuration file by ten parameters each.  The function
counts the names of processes in the file, and then reads ten parameters for each of them into a
static record, from which it decides what becomes of the process (`utils/loc_cfg.cpp`).

## Main definitions

* `loc_launcher_conf` : the static record, with the tables that point into it.
* `Launcher`, `loc_launcher_conf.loc_service_mask` : what the device and the feature modes say.
* `Launcher.process` : the entry that is made of the record.
* `Launcher.loc_read_process_conf` : the function.
-/

namespace GpsHal

inductive loc_process_e_status
  | ENABLED
  | RUNNING
  | DISABLED
  | DISABLED_FROM_CONF
  | DISABLED_VIA_VENDOR_ENHANCED_CHECK
  deriving DecidableEq, Repr

/-- An entry of the list, with those of its groups and arguments that have been written.  The string
with the arguments has been split in place. -/
structure loc_process_info_s_type where
  proc_status : loc_process_e_status
  name : List UInt8
  group_list : List (BitVec 32)
  args : List (List UInt8)
  argumentString : List UInt8
  deriving DecidableEq, Repr

structure loc_launcher_conf where
  proc_name : List UInt8
  proc_argument : List UInt8
  proc_status : List UInt8
  group_list : List UInt8
  premium_feature : BitVec 32
  loc_feature_mask : BitVec 32
  platform_list : List UInt8
  baseband : List UInt8
  sglte_target : BitVec 32
  feature_gtp_mode : List UInt8
  feature_gtp_waa : List UInt8
  feature_sap : List UInt8
  feature_odcpi : List UInt8
  feature_free_wifi_scan_inject : List UInt8
  feature_supl_wifi : List UInt8
  feature_wifi_supplicant_info : List UInt8
  auto_platform : List UInt8
  vendor_enhanced_process : BitVec 32
  deriving DecidableEq, Repr

/-! ### Tables -/

namespace loc_param_s_type

/-- An entry that points to a buffer with the text. -/
def ofText (param_name : String) (text : List UInt8) : loc_param_s_type :=
  ⟨cstring param_name, some (.string text), none, byte 's'⟩

def ofNumber (param_name : String) (n : BitVec 32) : loc_param_s_type :=
  ⟨cstring param_name, some (.number n), none, byte 'n'⟩

variable (e : loc_param_s_type)

/-- The text in the buffer that the entry points to. -/
def text : List UInt8 :=
  match e.param_ptr with
  | some (.string text) => text
  | some (.number _) | some (.double _) | none => []

def number : BitVec 32 :=
  match e.param_ptr with
  | some (.number n) => n
  | some (.string _) | some (.double _) | none => 0

end loc_param_s_type

namespace loc_launcher_conf

open loc_param_s_type

variable (conf : loc_launcher_conf)

def gps_conf_parameter_table : List loc_param_s_type := [ofNumber "SGLTE_TARGET" conf.sglte_target]

def loc_feature_conf_table : List loc_param_s_type :=
  [ofText "GTP_MODE" conf.feature_gtp_mode,
    ofText "GTP_WAA" conf.feature_gtp_waa,
    ofText "SAP" conf.feature_sap,
    ofText "ODCPI" conf.feature_odcpi,
    ofText "FREE_WIFI_SCAN_INJECT" conf.feature_free_wifi_scan_inject,
    ofText "SUPL_WIFI" conf.feature_supl_wifi,
    ofText "WIFI_SUPPLICANT_INFO" conf.feature_wifi_supplicant_info]

def loc_process_conf_parameter_table : List loc_param_s_type :=
  [ofText "PROCESS_NAME" conf.proc_name,
    ofText "PROCESS_ARGUMENT" conf.proc_argument,
    ofText "PROCESS_STATE" conf.proc_status,
    ofText "PROCESS_GROUPS" conf.group_list,
    ofNumber "PREMIUM_FEATURE" conf.premium_feature,
    ofNumber "IZAT_FEATURE_MASK" conf.loc_feature_mask,
    ofText "PLATFORMS" conf.platform_list,
    ofText "BASEBAND" conf.baseband,
    ofText "HARDWARE_TYPE" conf.auto_platform,
    ofNumber "VENDOR_ENHANCED_PROCESS" conf.vendor_enhanced_process]

/-- The record when the entries of a table have been set. -/
def withGps : List loc_param_s_type → loc_launcher_conf
  | [sglte_target] => { conf with sglte_target := sglte_target.number }
  | _ => conf

def withFeatures : List loc_param_s_type → loc_launcher_conf
  | [gtp_mode, gtp_waa, sap, odcpi, free_wifi_scan_inject, supl_wifi, wifi_supplicant_info] =>
    { conf with
      feature_gtp_mode := gtp_mode.text
      feature_gtp_waa := gtp_waa.text
      feature_sap := sap.text
      feature_odcpi := odcpi.text
      feature_free_wifi_scan_inject := free_wifi_scan_inject.text
      feature_supl_wifi := supl_wifi.text
      feature_wifi_supplicant_info := wifi_supplicant_info.text }
  | _ => conf

def withProcess : List loc_param_s_type → loc_launcher_conf
  | [proc_name, proc_argument, proc_status, group_list, premium_feature, loc_feature_mask,
      platform_list, baseband, auto_platform, vendor_enhanced_process] =>
    { conf with
      proc_name := proc_name.text
      proc_argument := proc_argument.text
      proc_status := proc_status.text
      group_list := group_list.text
      premium_feature := premium_feature.number
      loc_feature_mask := loc_feature_mask.number
      platform_list := platform_list.text
      baseband := baseband.text
      auto_platform := auto_platform.text
      vendor_enhanced_process := vendor_enhanced_process.number }
  | [proc_name] => { conf with proc_name := proc_name.text }
  | _ => conf

/-! ### Feature modes -/

section Features

def LOC_FEATURE_MASK_GTP_WIFI_BASIC : BitVec 32 := 0x01
def LOC_FEATURE_MASK_GTP_WIFI_PREMIUM : BitVec 32 := 0x02
def LOC_FEATURE_MASK_GTP_CELL_BASIC : BitVec 32 := 0x04
def LOC_FEATURE_MASK_GTP_CELL_PREMIUM : BitVec 32 := 0x08
def LOC_FEATURE_MASK_SAP_BASIC : BitVec 32 := 0x40
def LOC_FEATURE_MASK_SAP_PREMIUM : BitVec 32 := 0x80
def LOC_FEATURE_MASK_GTP_WAA_BASIC : BitVec 32 := 0x100
def LOC_FEATURE_MASK_GTP_MODEM_CELL_BASIC : BitVec 32 := 0x400
def LOC_FEATURE_MASK_ODCPI : BitVec 32 := 0x1000
def LOC_FEATURE_MASK_FREE_WIFI_SCAN_INJECT : BitVec 32 := 0x2000
def LOC_FEATURE_MASK_SUPL_WIFI : BitVec 32 := 0x4000
def LOC_FEATURE_MASK_WIFI_SUPPLICANT_INFO : BitVec 32 := 0x8000

/-- A feature with one mode, for which `PREMIUM` is taken as well. -/
def oneMode (mask : BitVec 32) (mode : List UInt8) : BitVec 32 :=
  if mode = cstring "BASIC" then mask
  else if mode = cstring "DISABLED" then 0
  else if mode = cstring "PREMIUM" then mask
  else 0

/-- The features that the modes switch on. -/
def loc_service_mask : BitVec 32 :=
  (if conf.feature_gtp_mode = cstring "DISABLED" then 0
    else if conf.feature_gtp_mode = cstring "LEGACY_WWAN" then LOC_FEATURE_MASK_GTP_MODEM_CELL_BASIC
    else if conf.feature_gtp_mode = cstring "SDK" then LOC_FEATURE_MASK_GTP_WIFI_BASIC
    else 0) |||
  (if conf.feature_gtp_waa = cstring "BASIC" then LOC_FEATURE_MASK_GTP_WAA_BASIC else 0) |||
  (if conf.feature_sap = cstring "PREMIUM" then LOC_FEATURE_MASK_SAP_PREMIUM
    else if conf.feature_sap = cstring "BASIC" then LOC_FEATURE_MASK_SAP_BASIC
    else if conf.feature_sap = cstring "MODEM_DEFAULT" then 0
    else if conf.feature_sap = cstring "DISABLED" then 0
    else LOC_FEATURE_MASK_SAP_BASIC) |||
  oneMode LOC_FEATURE_MASK_ODCPI conf.feature_odcpi |||
  oneMode LOC_FEATURE_MASK_FREE_WIFI_SCAN_INJECT conf.feature_free_wifi_scan_inject |||
  oneMode LOC_FEATURE_MASK_SUPL_WIFI conf.feature_supl_wifi |||
  oneMode LOC_FEATURE_MASK_WIFI_SUPPLICANT_INFO conf.feature_wifi_supplicant_info

/-- The arguments for a feature that the process has the masks of: its name, and its mode. -/
def modeArgs (masks : BitVec 32) (name : String) (mode : String) : List (List UInt8) :=
  if conf.loc_feature_mask &&& masks ≠ 0 then [cstring name, cstring mode] else []

def featureArgs (loc_service_mask : BitVec 32) : List (List UInt8) :=
  conf.modeArgs (LOC_FEATURE_MASK_GTP_WIFI_BASIC ||| LOC_FEATURE_MASK_GTP_WIFI_PREMIUM) "--gtp-wifi"
    (if loc_service_mask &&& LOC_FEATURE_MASK_GTP_WIFI_BASIC ≠ 0 then "BASIC"
      else if loc_service_mask &&& LOC_FEATURE_MASK_GTP_WIFI_PREMIUM ≠ 0 then "PREMIUM"
      else "DISABLED") ++
  conf.modeArgs (LOC_FEATURE_MASK_GTP_CELL_BASIC ||| LOC_FEATURE_MASK_GTP_CELL_PREMIUM)
    "--gtp-modem-cell"
    (if loc_service_mask &&& LOC_FEATURE_MASK_GTP_MODEM_CELL_BASIC ≠ 0 then "BASIC"
      else "DISABLED") ++
  conf.modeArgs (LOC_FEATURE_MASK_SAP_BASIC ||| LOC_FEATURE_MASK_SAP_PREMIUM) "--sap"
    (if loc_service_mask &&& LOC_FEATURE_MASK_SAP_BASIC ≠ 0 then "BASIC"
      else if loc_service_mask &&& LOC_FEATURE_MASK_SAP_PREMIUM ≠ 0 then "PREMIUM"
      else "DISABLED") ++
  conf.modeArgs LOC_FEATURE_MASK_GTP_WAA_BASIC "--gtp-waa"
    (if loc_service_mask &&& LOC_FEATURE_MASK_GTP_WAA_BASIC ≠ 0 then "BASIC" else "DISABLED")

end Features

end loc_launcher_conf

/-! ### Tests -/

section Tests

def MAX_NUM_STRINGS : ℕ := 20

def CONFIG_MASK_TARGET_ALL : BitVec 8 := 0x01
def CONFIG_MASK_TARGET_FOUND : BitVec 8 := 0x02
def CONFIG_MASK_TARGET_CHECK : BitVec 8 := 0x03
def CONFIG_MASK_BASEBAND_ALL : BitVec 8 := 0x04
def CONFIG_MASK_BASEBAND_FOUND : BitVec 8 := 0x08
def CONFIG_MASK_BASEBAND_CHECK : BitVec 8 := 0x0c
def CONFIG_MASK_AUTOPLATFORM_ALL : BitVec 8 := 0x10
def CONFIG_MASK_AUTOPLATFORM_FOUND : BitVec 8 := 0x20
def CONFIG_MASK_AUTOPLATFORM_CHECK : BitVec 8 := 0x30

/-- The names in a list. -/
def names (list : List UInt8) : List (List UInt8) :=
  (SplitString.loc_util_split_string (list ++ [0]) MAX_NUM_STRINGS (byte ' ')).pieces

/-- A list when it has been split in place. -/
def firstName (list : List UInt8) : List UInt8 :=
  ctext (SplitString.loc_util_split_string (list ++ [0]) MAX_NUM_STRINGS (byte ' ')).raw_string

/-- The bits for a list of names: those of `all` if it stands alone or excludes nothing, those of a
name that is found if it is in the list, or not among those that are excluded. -/
def nameMask (all found : BitVec 8) (name : List UInt8) (also : List UInt8 → Bool) :
    List (List UInt8) → BitVec 8
  | [] => 0
  | first :: rest =>
    if first = cstring "all" then
      if rest = [] ∨ rest = [cstring "exclude"] then all
      else if rest.head? = some (cstring "exclude") then
        if name ∈ rest.tail then 0 else found
      else 0
    else if (first :: rest).any fun s => name == s || also s then found else 0

/-- The bits for the type of the hardware, from which nothing can be excluded. -/
def autoMask (name : List UInt8) : List (List UInt8) → BitVec 8
  | [] => 0
  | first :: rest =>
    if first = cstring "all" then CONFIG_MASK_AUTOPLATFORM_ALL
    else if name ∈ first :: rest then CONFIG_MASK_AUTOPLATFORM_FOUND
    else 0

end Tests

/-! ### Processes -/

def LOC_PROCESS_MAX_NUM_ARGS : ℕ := 25
def LOC_PROCESS_MAX_ARG_STR_LENGTH : ℕ := 32

/-- What the device says, and the C library about its floating-point numbers. -/
structure Launcher where
  atof : List UInt8 → CDouble
  platform_name : List UInt8
  baseband_name : List UInt8
  autoplatform_name : List UInt8
  isXtraDaemonEnabled : Bool
  isVendorEnhanced : Bool
  getgrnam : List UInt8 → Option (BitVec 32)

namespace Launcher

variable (device : Launcher) (conf : loc_launcher_conf)

def config_mask : BitVec 8 :=
  nameMask CONFIG_MASK_TARGET_ALL CONFIG_MASK_TARGET_FOUND device.platform_name (fun _ => false)
    (names conf.platform_list) |||
  nameMask CONFIG_MASK_BASEBAND_ALL CONFIG_MASK_BASEBAND_FOUND device.baseband_name
    (fun s => s == cstring "sglte" && conf.sglte_target != 0) (names conf.baseband) |||
  autoMask device.autoplatform_name (names conf.auto_platform)

/-- What is left of the record when its lists have been split. -/
def splitLists : loc_launcher_conf := { conf with
  group_list := firstName conf.group_list
  platform_list := firstName conf.platform_list
  baseband := firstName conf.baseband
  auto_platform := firstName conf.auto_platform }

/-- The entry of a process that has passed the first checks. -/
def launch (loc_service_mask : BitVec 32) : loc_process_info_s_type :=
  let name := conf.proc_name.take (LOC_MAX_PARAM_STRING - 1)
  let group_list := (names conf.group_list).filterMap device.getgrnam
  let config_mask := device.config_mask conf
  if config_mask &&& CONFIG_MASK_TARGET_CHECK ≠ 0 ∧
      config_mask &&& CONFIG_MASK_BASEBAND_CHECK ≠ 0 ∧
      config_mask &&& CONFIG_MASK_AUTOPLATFORM_CHECK ≠ 0 then
    let temp_arg := if name.head? = some (byte '/') then name.rtakeWhile (· != byte '/') else name
    let arg := temp_arg.take (LOC_PROCESS_MAX_ARG_STR_LENGTH - 1)
    let hasFeature := conf.loc_feature_mask &&& loc_service_mask ≠ 0
    let proc_status :=
      if conf.premium_feature ≠ 0 then
        if hasFeature then loc_process_e_status.ENABLED else .DISABLED
      else .ENABLED
    let args := arg ::
      if conf.premium_feature ≠ 0 ∧ hasFeature then conf.featureArgs loc_service_mask else []
    if conf.proc_argument = [] then ⟨proc_status, name, group_list, args, []⟩
    else
      let split := SplitString.loc_util_split_string
        (conf.proc_argument.take (LOC_MAX_PARAM_STRING - 1) ++ [0])
        (LOC_PROCESS_MAX_NUM_ARGS - args.length) (byte ' ')
      ⟨proc_status, name, group_list,
        args ++ split.pieces.map (·.take (LOC_PROCESS_MAX_ARG_STR_LENGTH - 1)), split.raw_string⟩
  else ⟨.DISABLED, name, group_list, [], []⟩

/-- What is made of the record, and what is left of it. -/
def process (loc_service_mask : BitVec 32) : loc_process_info_s_type × loc_launcher_conf :=
  let child_proc : loc_process_info_s_type := ⟨.DISABLED, [], [], [], []⟩
  if conf.proc_name = [] ∨ conf.group_list = [] ∨ conf.platform_list = [] ∨ conf.baseband = [] ∨
      conf.proc_status = [] ∨ conf.auto_platform = [] then
    (child_proc, conf)
  else if conf.proc_name = cstring "xtra-daemon" ∧ ¬device.isXtraDaemonEnabled then
    ({ child_proc with proc_status := .DISABLED_FROM_CONF }, conf)
  else if ¬device.isVendorEnhanced ∧ conf.vendor_enhanced_process ≠ 0 then
    ({ child_proc with proc_status := .DISABLED_VIA_VENDOR_ENHANCED_CHECK }, conf)
  else if conf.proc_status = cstring "DISABLED" then
    ({ child_proc with proc_status := .DISABLED_FROM_CONF }, conf)
  else if LOC_MAX_PARAM_STRING < conf.proc_name.length + 1 then (child_proc, conf)
  else (device.launch conf loc_service_mask, splitLists conf)

end Launcher

/-! ### The function -/

/-- What the function returns, and what it stores for its caller. -/
structure ProcessConf where
  ret : ℤ
  process_count : BitVec 8
  process_info_table : List loc_process_info_s_type
  deriving DecidableEq, Repr

namespace Launcher

variable (device : Launcher)

/-- `loc_read_conf`.  The parameters of the log, which it reads as well, are not used here. -/
def loc_read_conf (file : Option (List UInt8)) (config_table : ConfTable) : List loc_param_s_type :=
  match file with
  | some _ => (loc_read_conf_r device.atof file config_table).config_table
  | none => config_table.entries

/-- The loop that counts the names of processes, with as many turns as there can be. -/
def countProcesses : ℕ → loc_launcher_conf → Option (List UInt8) → BitVec 8 →
    Option (loc_launcher_conf × BitVec 8)
  | 0, conf, _, proc_list_length => some (conf, proc_list_length)
  | turns + 1, conf, conf_fp, proc_list_length =>
    let conf := { conf with proc_name := [] }
    let r := loc_read_conf_r device.atof conf_fp
      ⟨conf.loc_process_conf_parameter_table.take 1, by show 1 < 4294967296; decide⟩
    if r.ret ≠ 0 then none
    else
      let conf := conf.withProcess r.config_table
      if conf.proc_name = [] then some (conf, proc_list_length)
      else countProcesses turns conf r.conf_fp (proc_list_length + 1)

/-- The loop that reads the parameters of the processes. -/
def readProcesses (loc_service_mask : BitVec 32) : ℕ → loc_launcher_conf → Option (List UInt8) →
    Option (List loc_process_info_s_type)
  | 0, _, _ => some []
  | left + 1, conf, conf_fp =>
    let r := loc_read_conf_r device.atof conf_fp
      ⟨conf.loc_process_conf_parameter_table, by show 10 < 4294967296; decide⟩
    if r.ret ≠ 0 then none
    else
      let p := device.process (conf.withProcess r.config_table) loc_service_mask
      (readProcesses loc_service_mask left p.2 r.conf_fp).map (p.1 :: ·)

/-- The static record when the device's configuration and the feature modes have been read. -/
def readFeatures (gps_conf conf_file : Option (List UInt8)) (conf : loc_launcher_conf) :
    loc_launcher_conf :=
  let conf := conf.withGps (device.loc_read_conf gps_conf
    ⟨conf.gps_conf_parameter_table, by show 1 < 4294967296; decide⟩)
  conf.withFeatures (device.loc_read_conf conf_file
    ⟨conf.loc_feature_conf_table, by show 7 < 4294967296; decide⟩)

/-- `loc_read_process_conf` with what it finds in the files, if they can be opened, and in its static
record.  `calloc` says whether there is memory for the list. -/
def loc_read_process_conf (calloc : Bool) (gps_conf conf_file : Option (List UInt8))
    (conf : loc_launcher_conf) : ProcessConf :=
  let conf := device.readFeatures gps_conf conf_file conf
  let loc_service_mask := conf.loc_service_mask
  match conf_file with
  | none => ⟨-1, 0, []⟩
  | some file =>
    match device.countProcesses (file.length + 1) conf (some file) 0 with
    | none => ⟨-1, 0, []⟩
    | some (conf, proc_list_length) =>
      if ¬calloc then ⟨-1, 0, []⟩
      else
        match device.readProcesses loc_service_mask proc_list_length.toNat conf (some file) with
        | none => ⟨-1, 0, []⟩
        | some child_proc => ⟨0, proc_list_length, child_proc⟩

end Launcher

end GpsHal

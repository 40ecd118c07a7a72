namespace Fleetwire

inductive MessageKind where
  -- the agent, and what it runs
  | heartbeat | runCommand | runScript | agentInfo
  -- the machine
  | osInfo | cpuInfo | memoryInfo
  -- kernel parameters
  | sysctlInfo | sysctlChange | sysctlView
  -- services
  | serviceList | serviceStatus | serviceRestart | serviceStop | serviceStart
  -- packages
  | allRpm | rpmSource | rpmInfo | installRpm | removeRpm
  -- storage
  | diskUsage | diskInfo | diskMount | diskUmount | diskFormat
  -- network
  | netTcp | netUdp | netIoCounter | netNicConfig
  -- accounts and the owners of files
  | currentUser | allUser | addLinuxUser | delUser | changePermission | changeFileOwner
  -- the machine as its agent sees it
  | agentOsInfo
  -- the firewall
  | firewalldConfig | firewalldDefaultZone | firewalldZoneConfig | firewalldServiceAdd
  | firewalldServiceRemove | firewalldSourceAdd | firewalldSourceRemove | firewalldRestart
  | firewalldStop | firewalldZonePortAdd | firewalldZonePortDel
  -- jobs and package sources
  | cronStart | cronStopAndDel | repoSource
  -- network set-up
  | networkConnections | networkConfig | nicName | restartNetwork
  -- files and the clock
  | readFile | editFile | agentTime
  -- watched files
  | configFilePush | configFileChanged | fileMonitor
  | other (code : UInt16)
deriving DecidableEq, Repr

namespace MessageKind

def code : MessageKind → UInt16
  | heartbeat => 1
  | runCommand => 2
  | runScript => 3
  | agentInfo => 4
  | osInfo => 5
  | cpuInfo => 6
  | memoryInfo => 7
  | sysctlInfo => 8
  | sysctlChange => 9
  | sysctlView => 10
  | serviceList => 11
  | serviceStatus => 12
  | serviceRestart => 13
  | serviceStop => 14
  | serviceStart => 15
  | allRpm => 16
  | rpmSource => 17
  | rpmInfo => 18
  | installRpm => 19
  | removeRpm => 20
  | diskUsage => 21
  | diskInfo => 22
  | diskMount => 23
  | diskUmount => 24
  | diskFormat => 25
  | netTcp => 26
  | netUdp => 27
  | netIoCounter => 28
  | netNicConfig => 29
  | currentUser => 30
  | allUser => 31
  | addLinuxUser => 32
  | delUser => 33
  | changePermission => 34
  | changeFileOwner => 35
  | agentOsInfo => 36
  | firewalldConfig => 37
  | firewalldDefaultZone => 38
  | firewalldZoneConfig => 39
  | firewalldServiceAdd => 40
  | firewalldServiceRemove => 41
  | firewalldSourceAdd => 42
  | firewalldSourceRemove => 43
  | firewalldRestart => 44
  | firewalldStop => 45
  | firewalldZonePortAdd => 46
  | firewalldZonePortDel => 47
  | cronStart => 48
  | cronStopAndDel => 49
  | repoSource => 50
  | networkConnections => 51
  | networkConfig => 52
  | nicName => 53
  | restartNetwork => 54
  | readFile => 55
  | editFile => 56
  | agentTime => 57
  | configFilePush => 58
  | configFileChanged => 59
  | fileMonitor => 60
  | other code => code

def known : List MessageKind := [
  heartbeat, runCommand, runScript, agentInfo, osInfo, cpuInfo, memoryInfo, sysctlInfo,
  sysctlChange, sysctlView, serviceList, serviceStatus, serviceRestart, serviceStop,
  serviceStart, allRpm, rpmSource, rpmInfo, installRpm, removeRpm, diskUsage, diskInfo,
  diskMount, diskUmount, diskFormat, netTcp, netUdp, netIoCounter, netNicConfig, currentUser,
  allUser, addLinuxUser, delUser, changePermission, changeFileOwner, agentOsInfo,
  firewalldConfig, firewalldDefaultZone, firewalldZoneConfig, firewalldServiceAdd,
  firewalldServiceRemove, firewalldSourceAdd, firewalldSourceRemove, firewalldRestart,
  firewalldStop, firewalldZonePortAdd, firewalldZonePortDel, cronStart, cronStopAndDel,
  repoSource, networkConnections, networkConfig, nicName, restartNetwork, readFile, editFile,
  agentTime, configFilePush, configFileChanged, fileMonitor]

def ofCode (code : UInt16) : MessageKind := (known.find? fun kind => kind.code = code).getD (other code)

/-- The lowercase name used in logs and error texts; every other code shares one. -/
def name : MessageKind → String
  | heartbeat => "heartbeat"
  | runCommand => "run_command"
  | runScript => "run_script"
  | agentInfo => "agent_info"
  | osInfo => "os_info"
  | cpuInfo => "cpu_info"
  | memoryInfo => "memory_info"
  | sysctlInfo => "sysctl_info"
  | sysctlChange => "sysctl_change"
  | sysctlView => "sysctl_view"
  | serviceList => "service_list"
  | serviceStatus => "service_status"
  | serviceRestart => "service_restart"
  | serviceStop => "service_stop"
  | serviceStart => "service_start"
  | allRpm => "all_rpm"
  | rpmSource => "rpm_source"
  | rpmInfo => "rpm_info"
  | installRpm => "install_rpm"
  | removeRpm => "remove_rpm"
  | diskUsage => "disk_usage"
  | diskInfo => "disk_info"
  | diskMount => "disk_mount"
  | diskUmount => "disk_umount"
  | diskFormat => "disk_format"
  | netTcp => "net_tcp"
  | netUdp => "net_udp"
  | netIoCounter => "net_io_counter"
  | netNicConfig => "net_nic_config"
  | currentUser => "current_user"
  | allUser => "all_user"
  | addLinuxUser => "add_linux_user"
  | delUser => "del_user"
  | changePermission => "change_permission"
  | changeFileOwner => "change_file_owner"
  | agentOsInfo => "agent_os_info"
  | firewalldConfig => "firewalld_config"
  | firewalldDefaultZone => "firewalld_default_zone"
  | firewalldZoneConfig => "firewalld_zone_config"
  | firewalldServiceAdd => "firewalld_service_add"
  | firewalldServiceRemove => "firewalld_service_remove"
  | firewalldSourceAdd => "firewalld_source_add"
  | firewalldSourceRemove => "firewalld_source_remove"
  | firewalldRestart => "firewalld_restart"
  | firewalldStop => "firewalld_stop"
  | firewalldZonePortAdd => "firewalld_zone_port_add"
  | firewalldZonePortDel => "firewalld_zone_port_del"
  | cronStart => "cron_start"
  | cronStopAndDel => "cron_stop_and_del"
  | repoSource => "repo_source"
  | networkConnections => "network_connections"
  | networkConfig => "network_config"
  | nicName => "nic_name"
  | restartNetwork => "restart_network"
  | readFile => "read_file"
  | editFile => "edit_file"
  | agentTime => "agent_time"
  | configFilePush => "config_file_push"
  | configFileChanged => "config_file_changed"
  | fileMonitor => "file_monitor"
  | other _ => "unknown"

def display : MessageKind → String
  | other code => s!"unknown({code.toNat})"
  | kind => kind.name

def label : MessageKind → String
  | other code => s!"Other({code.toNat})"
  | kind => String.join ((kind.name.splitOn "_").map String.capitalize)

theorem code_ofCode (code : UInt16) : (ofCode code).code = code := by
  unfold ofCode
  cases h : known.find? fun kind => kind.code = code with
  | none => rfl
  | some kind => simpa using List.find?_some h

theorem ofCode_code (kind : MessageKind) (known : ∀ code, kind ≠ other code) :
    ofCode kind.code = kind := by
  cases kind <;> first | rfl | exact absurd rfl (known _)

end MessageKind

end Fleetwire

import Fleetwire.MessagePack.Wire
import Fleetwire.Message.Kind

namespace Fleetwire

open MessagePack

namespace Catalog

def agentIdentity : Record where
  name := "AgentIdentity"
  fields := [
    { name := "agent_uuid", type := .text },
    { name := "agent_version", type := .text },
    { name := "ip", type := .text, absent := some "" }]

def commandRequest : Record where
  name := "CommandRequest"
  fields := [
    { name := "command", type := .text }]

def scriptRequest : Record where
  name := "ScriptRequest"
  fields := [
    { name := "script", type := .text },
    { name := "args", type := .texts, absent := some ([] : List String) }]

def commandOutput : Record where
  name := "CommandOutput"
  fields := [
    { name := "exit_code", type := .int .i32 },
    { name := "stdout", type := .text },
    { name := "stderr", type := .text }]

def osInfo : Record where
  name := "OsInfo"
  fields := [
    { name := "ip", type := .text },
    { name := "platform", type := .text },
    { name := "platform_version", type := .text },
    { name := "kernel_version", type := .text },
    { name := "kernel_arch", type := .text },
    { name := "host_name", type := .text },
    { name := "uptime", type := .int .u64 }]

def cpuInfo : Record where
  name := "CpuInfo"
  fields := [
    { name := "model_name", type := .text },
    { name := "cpu_num", type := .int .u32 }]

def memoryInfo : Record where
  name := "MemoryInfo"
  fields := [
    { name := "mem_total", type := .int .u64 },
    { name := "mem_free", type := .int .u64 },
    { name := "mem_available", type := .int .u64 },
    { name := "buffers", type := .int .u64 },
    { name := "cached", type := .int .u64 },
    { name := "swap_cached", type := .int .u64 }]

def sysctlAssignment : Record where
  name := "SysctlAssignment"
  fields := [
    { name := "key", type := .text },
    { name := "value", type := .text }]

def serviceUnit : Record where
  name := "ServiceUnit"
  fields := [
    { name := "name", type := .text },
    { name := "load", type := .text },
    { name := "active", type := .text },
    { name := "sub", type := .text }]

def rpmSource : Record where
  name := "RpmSource"
  fields := [
    { name := "name", type := .text },
    { name := "source", type := .text }]

def rpmInfo : Record where
  name := "RpmInfo"
  fields := [
    { name := "name", type := .text },
    { name := "version", type := .text },
    { name := "release", type := .text },
    { name := "architecture", type := .text },
    { name := "size", type := .int .u64 },
    { name := "license", type := .text },
    { name := "summary", type := .text }]

def diskUsage : Record where
  name := "DiskUsage"
  fields := [
    { name := "device", type := .text },
    { name := "path", type := .text },
    { name := "fstype", type := .text },
    { name := "total", type := .int .u64 },
    { name := "used", type := .int .u64 },
    { name := "used_percent", type := .float }]

def diskIoCounters : Record where
  name := "DiskIoCounters"
  fields := [
    { name := "name", type := .text },
    { name := "read_count", type := .int .u64 },
    { name := "write_count", type := .int .u64 },
    { name := "read_bytes", type := .int .u64 },
    { name := "write_bytes", type := .int .u64 }]

def mountRequest : Record where
  name := "MountRequest"
  fields := [
    { name := "source", type := .text },
    { name := "target", type := .text }]

def formatRequest : Record where
  name := "FormatRequest"
  fields := [
    { name := "fs_type", type := .text },
    { name := "device", type := .text }]

def socketStat : Record where
  name := "SocketStat"
  fields := [
    { name := "local_addr", type := .text },
    { name := "remote_addr", type := .text },
    { name := "status", type := .text },
    { name := "pid", type := .int .i32 }]

def netIoCounters : Record where
  name := "NetIoCounters"
  fields := [
    { name := "name", type := .text },
    { name := "bytes_sent", type := .int .u64 },
    { name := "bytes_recv", type := .int .u64 },
    { name := "packets_sent", type := .int .u64 },
    { name := "packets_recv", type := .int .u64 }]

def nicConfig : Record where
  name := "NicConfig"
  fields := [
    { name := "name", type := .text },
    { name := "mac", type := .text },
    { name := "addrs", type := .texts }]

def networkConfig : Record where
  name := "NetworkConfig"
  fields := [
    { name := "nic", type := .text },
    { name := "ip", type := .text },
    { name := "netmask", type := .text },
    { name := "gateway", type := .text },
    { name := "dns", type := .texts },
    { name := "boot_proto", type := .text }]

def userAccount : Record where
  name := "UserAccount"
  fields := [
    { name := "name", type := .text },
    { name := "uid", type := .int .u32 },
    { name := "gid", type := .int .u32 },
    { name := "home", type := .text },
    { name := "shell", type := .text }]

def newUser : Record where
  name := "NewUser"
  fields := [
    { name := "username", type := .text },
    { name := "password", type := .text }]

def permissionChange : Record where
  name := "PermissionChange"
  fields := [
    { name := "permission", type := .text },
    { name := "path", type := .text }]

def ownerChange : Record where
  name := "OwnerChange"
  fields := [
    { name := "owner", type := .text },
    { name := "path", type := .text }]

def firewallOverview : Record where
  name := "FirewallOverview"
  fields := [
    { name := "status", type := .text },
    { name := "default_zone", type := .text },
    { name := "zones", type := .texts },
    { name := "services", type := .texts }]

def zoneConfig : Record where
  name := "ZoneConfig"
  fields := [
    { name := "zone", type := .text },
    { name := "services", type := .texts },
    { name := "sources", type := .texts },
    { name := "ports", type := .texts }]

def zoneService : Record where
  name := "ZoneService"
  fields := [
    { name := "zone", type := .text },
    { name := "service", type := .text }]

def zoneSource : Record where
  name := "ZoneSource"
  fields := [
    { name := "zone", type := .text },
    { name := "source", type := .text }]

def zonePort : Record where
  name := "ZonePort"
  fields := [
    { name := "zone", type := .text },
    { name := "port", type := .text },
    { name := "protocol", type := .text }]

def cronJob : Record where
  name := "CronJob"
  fields := [
    { name := "id", type := .int .i64 },
    { name := "spec", type := .text },
    { name := "command", type := .text }]

def repoFile : Record where
  name := "RepoFile"
  fields := [
    { name := "file", type := .text },
    { name := "content", type := .text }]

def fileEdit : Record where
  name := "FileEdit"
  fields := [
    { name := "path", type := .text },
    { name := "name", type := .text },
    { name := "text", type := .text }]

def configFile : Record where
  name := "ConfigFile"
  fields := [
    { name := "machine_uuid", type := .text },
    { name := "path", type := .text },
    { name := "content", type := .text }]

end Catalog

structure Command where
  name : String
  operation : Option String
  kind : MessageKind
  request : Shape
  response : Shape

namespace Command

open Catalog

def heartbeat : Command :=
  ⟨"Heartbeat", some "heartbeat", .heartbeat, .plain .text, .plain .text⟩

def runCommand : Command :=
  ⟨"RunCommand", some "run_command", .runCommand, .record commandRequest, .record commandOutput⟩

def runScript : Command :=
  ⟨"RunScript", some "run_script", .runScript, .record scriptRequest, .record commandOutput⟩

def getAgentInfo : Command :=
  ⟨"GetAgentInfo", some "agent_info", .agentInfo, .unit, .record agentIdentity⟩

def getOsInfo : Command :=
  ⟨"GetOsInfo", some "os_info", .osInfo, .unit, .record osInfo⟩

def getCpuInfo : Command :=
  ⟨"GetCpuInfo", some "cpu_info", .cpuInfo, .unit, .record cpuInfo⟩

def getMemoryInfo : Command :=
  ⟨"GetMemoryInfo", some "memory_info", .memoryInfo, .unit, .record memoryInfo⟩

def getSysctlInfo : Command :=
  ⟨"GetSysctlInfo", some "sysctl_info", .sysctlInfo, .unit, .table⟩

def changeSysctl : Command :=
  ⟨"ChangeSysctl", some "change_sysctl", .sysctlChange, .record sysctlAssignment, .plain .text⟩

def viewSysctl : Command :=
  ⟨"ViewSysctl", some "view_sysctl", .sysctlView, .plain .text, .plain .text⟩

def listServices : Command :=
  ⟨"ListServices", some "service_list", .serviceList, .unit, .records serviceUnit⟩

def getServiceStatus : Command :=
  ⟨"GetServiceStatus", some "service_status", .serviceStatus, .plain .text, .plain .text⟩

def restartService : Command :=
  ⟨"RestartService", some "service_restart", .serviceRestart, .plain .text, .plain .text⟩

def stopService : Command :=
  ⟨"StopService", some "service_stop", .serviceStop, .plain .text, .plain .text⟩

def startService : Command :=
  ⟨"StartService", some "service_start", .serviceStart, .plain .text, .plain .text⟩

def listRpms : Command :=
  ⟨"ListRpms", some "all_rpms", .allRpm, .unit, .plain .texts⟩

def getRpmSource : Command :=
  ⟨"GetRpmSource", some "rpm_source", .rpmSource, .plain .text, .record rpmSource⟩

def getRpmInfo : Command :=
  ⟨"GetRpmInfo", some "rpm_info", .rpmInfo, .plain .text, .record rpmInfo⟩

def installRpm : Command :=
  ⟨"InstallRpm", some "install_rpm", .installRpm, .plain .text, .plain .text⟩

def removeRpm : Command :=
  ⟨"RemoveRpm", some "remove_rpm", .removeRpm, .plain .text, .plain .text⟩

def getDiskUsage : Command :=
  ⟨"GetDiskUsage", some "disk_usage", .diskUsage, .unit, .records diskUsage⟩

def getDiskInfo : Command :=
  ⟨"GetDiskInfo", some "disk_info", .diskInfo, .unit, .records diskIoCounters⟩

def mountDisk : Command :=
  ⟨"MountDisk", some "disk_mount", .diskMount, .record mountRequest, .plain .text⟩

def unmountDisk : Command :=
  ⟨"UnmountDisk", some "disk_umount", .diskUmount, .plain .text, .plain .text⟩

def formatDisk : Command :=
  ⟨"FormatDisk", some "disk_format", .diskFormat, .record formatRequest, .plain .text⟩

def getNetTcp : Command :=
  ⟨"GetNetTcp", some "net_tcp", .netTcp, .unit, .records socketStat⟩

def getNetUdp : Command :=
  ⟨"GetNetUdp", some "net_udp", .netUdp, .unit, .records socketStat⟩

def getNetIoCounters : Command :=
  ⟨"GetNetIoCounters", some "net_io_counters", .netIoCounter, .unit, .records netIoCounters⟩

def getNicConfig : Command :=
  ⟨"GetNicConfig", some "nic_config", .netNicConfig, .unit, .records nicConfig⟩

def getCurrentUser : Command :=
  ⟨"GetCurrentUser", some "current_user", .currentUser, .unit, .record userAccount⟩

def listUsers : Command :=
  ⟨"ListUsers", some "all_users", .allUser, .unit, .records userAccount⟩

def addLinuxUser : Command :=
  ⟨"AddLinuxUser", some "add_user", .addLinuxUser, .record newUser, .plain .text⟩

def deleteUser : Command :=
  ⟨"DeleteUser", some "del_user", .delUser, .plain .text, .plain .text⟩

def changePermission : Command :=
  ⟨"ChangePermission", some "change_permission", .changePermission, .record permissionChange, .plain .text⟩

def changeFileOwner : Command :=
  ⟨"ChangeFileOwner", some "change_file_owner", .changeFileOwner, .record ownerChange, .plain .text⟩

def getAgentOsInfo : Command :=
  ⟨"GetAgentOsInfo", some "agent_os_info", .agentOsInfo, .unit, .record osInfo⟩

def getFirewallConfig : Command :=
  ⟨"GetFirewallConfig", some "firewall_config", .firewalldConfig, .unit, .record firewallOverview⟩

def setFirewallDefaultZone : Command :=
  ⟨"SetFirewallDefaultZone", some "firewall_set_default_zone", .firewalldDefaultZone, .plain .text, .plain .text⟩

def getFirewallZoneConfig : Command :=
  ⟨"GetFirewallZoneConfig", some "firewall_zone_config", .firewalldZoneConfig, .plain .text, .record zoneConfig⟩

def addFirewallService : Command :=
  ⟨"AddFirewallService", some "firewall_add_service", .firewalldServiceAdd, .record zoneService, .plain .text⟩

def removeFirewallService : Command :=
  ⟨"RemoveFirewallService", some "firewall_remove_service", .firewalldServiceRemove, .record zoneService, .plain .text⟩

def addFirewallSource : Command :=
  ⟨"AddFirewallSource", some "firewall_add_source", .firewalldSourceAdd, .record zoneSource, .plain .text⟩

def removeFirewallSource : Command :=
  ⟨"RemoveFirewallSource", some "firewall_remove_source", .firewalldSourceRemove, .record zoneSource, .plain .text⟩

def restartFirewall : Command :=
  ⟨"RestartFirewall", some "firewall_restart", .firewalldRestart, .unit, .plain .text⟩

def stopFirewall : Command :=
  ⟨"StopFirewall", some "firewall_stop", .firewalldStop, .unit, .plain .text⟩

def addFirewallPort : Command :=
  ⟨"AddFirewallPort", some "firewall_add_port", .firewalldZonePortAdd, .record zonePort, .plain .text⟩

def removeFirewallPort : Command :=
  ⟨"RemoveFirewallPort", some "firewall_remove_port", .firewalldZonePortDel, .record zonePort, .plain .text⟩

def startCron : Command :=
  ⟨"StartCron", some "cron_start", .cronStart, .record cronJob, .plain .text⟩

def stopCron : Command :=
  ⟨"StopCron", some "cron_stop", .cronStopAndDel, .plain (.int .i64), .plain .text⟩

def getRepoSources : Command :=
  ⟨"GetRepoSources", some "repo_sources", .repoSource, .unit, .records repoFile⟩

def getNetworkConnections : Command :=
  ⟨"GetNetworkConnections", some "network_connections", .networkConnections, .unit, .records socketStat⟩

def getNetworkConfig : Command :=
  ⟨"GetNetworkConfig", some "network_config", .networkConfig, .unit, .record networkConfig⟩

def getNicName : Command :=
  ⟨"GetNicName", some "nic_name", .nicName, .unit, .plain .text⟩

def restartNetwork : Command :=
  ⟨"RestartNetwork", some "restart_network", .restartNetwork, .plain .text, .plain .text⟩

def readFile : Command :=
  ⟨"ReadFile", some "read_file", .readFile, .plain .text, .plain .text⟩

def editFile : Command :=
  ⟨"EditFile", some "edit_file", .editFile, .record fileEdit, .plain .text⟩

def getAgentTime : Command :=
  ⟨"GetAgentTime", some "agent_time", .agentTime, .unit, .plain .text⟩

def pushConfigFile : Command :=
  ⟨"PushConfigFile", some "push_config_file", .configFilePush, .record configFile, .unit⟩

def configFileChanged : Command :=
  ⟨"ConfigFileChanged", none, .configFileChanged, .record configFile, .unit⟩

def fileMonitor : Command :=
  ⟨"FileMonitor", none, .fileMonitor, .plain .text, .unit⟩

def all : List Command := [
    heartbeat, runCommand, runScript, getAgentInfo, getOsInfo, getCpuInfo, getMemoryInfo,
    getSysctlInfo, changeSysctl, viewSysctl, listServices, getServiceStatus, restartService,
    stopService, startService, listRpms, getRpmSource, getRpmInfo, installRpm, removeRpm,
    getDiskUsage, getDiskInfo, mountDisk, unmountDisk, formatDisk, getNetTcp, getNetUdp,
    getNetIoCounters, getNicConfig, getCurrentUser, listUsers, addLinuxUser, deleteUser,
    changePermission, changeFileOwner, getAgentOsInfo, getFirewallConfig, setFirewallDefaultZone,
    getFirewallZoneConfig, addFirewallService, removeFirewallService, addFirewallSource,
    removeFirewallSource, restartFirewall, stopFirewall, addFirewallPort, removeFirewallPort,
    startCron, stopCron, getRepoSources, getNetworkConnections, getNetworkConfig, getNicName,
    restartNetwork, readFile, editFile, getAgentTime, pushConfigFile, configFileChanged,
    fileMonitor]

def named? (name : String) : Option Command := all.find? fun c => c.name = name

def operation? (name : String) : Option Command := all.find? fun c => c.operation = some name

end Command

end Fleetwire
